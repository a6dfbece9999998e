import FunctionSearch.Proofs.Files.Below

/-!
# Files written into a directory

What is written under a path that starts with the path of a directory is looked up from that
directory on (`Walks.of_append`). So a file that is written under a single name lies directly in the
directory, unless a link stands there (`list_write_child`), and nothing can be written below a name
under which there is no directory (`exists_error_of_write_below`).
-/

namespace FunctionSearch

namespace FileTree

variable {tree : FileTree}

/-! ## Ways through a directory -/

/-- **A way through a directory goes on from there.** -/
theorem Walks.of_append {aim aim' : Aim} {links : Nat} {here directory : Location}
    {parts more : List Name} {place : Place}
    (h : Walks tree aim links here parts (.present directory .directory)) (hmore : ¬ IsEnd more)
    (hall : Walks tree aim' links here (parts ++ more) place) :
    ∃ fewer, Walks tree aim' fewer directory more place := by
  have hnot : ∀ rest : List Name, ¬ IsEnd (rest ++ more) :=
    fun rest hend => hmore fun part hmem => hend part (List.mem_append_right rest hmem)
  generalize hgoal : Place.present directory .directory = goal at h
  -- at every step the rule of the longer way is that of the shorter one, since both look at the
  -- same part and find the same entry
  induction h with
  | stop =>
    cases hgoal
    exact ⟨_, hall⟩
  | stay hpart _ ih =>
    cases hall with
    | stay _ hrest => exact ih hrest hgoal
    | up => simp at hpart
    | vacant hlook | enter hlook | file hlook | link hlook | through hlook =>
      exact absurd hpart (not_or.mpr ⟨hlook.name.nonempty, hlook.name.ne_dot⟩)
  | up _ ih =>
    cases hall with
    | stay hpart => simp at hpart
    | up hrest => exact ih hrest hgoal
    | vacant hlook | enter hlook | file hlook | link hlook | through hlook =>
      exact absurd rfl hlook.name.ne_dots
  | vacant | file | link => cases hgoal
  | enter hlook hat _ ih =>
    cases hall with
    | stay hpart => exact absurd hpart (not_or.mpr ⟨hlook.name.nonempty, hlook.name.ne_dot⟩)
    | up => exact absurd rfl hlook.name.ne_dots
    | enter _ _ hrest => exact ih hrest hgoal
    | vacant _ hat' | file _ hat' | link _ hat' | through _ hat' => cases hat.symm.trans hat'
  | through hlook hat _ _ ih =>
    cases hall with
    | stay hpart => exact absurd hpart (not_or.mpr ⟨hlook.name.nonempty, hlook.name.ne_dot⟩)
    | up => exact absurd rfl hlook.name.ne_dots
    | vacant _ hat' | enter _ hat' | file _ hat' => cases hat.symm.trans hat'
    | link _ _ _ hend => exact absurd hend (hnot _)
    | through _ hat' _ hrest =>
      cases hat.symm.trans hat'
      rw [List.append_eq, ← List.append_assoc] at hrest
      exact ih hrest hgoal

/-! ## Changes -/

theorem mem_put_self (tree : FileTree) (location : Location) (entry : Entry) :
    (location, entry) ∈ (tree.put location entry).entries := by
  rw [put]
  split
  next hsome =>
    obtain ⟨old, hold⟩ := Option.isSome_iff_exists.mp hsome
    obtain ⟨before, after, hentries, -⟩ := List.lookup_eq_some_iff.mp hold
    exact List.mem_map.mpr ⟨(location, old), by simp [hentries], by simp⟩
  · exact List.mem_append_right _ (List.mem_singleton_self _)

/-- A write puts a file where its path leads: in the place of another file, or under a free name. -/
theorem write_eq_ok_iff {path : Path} {content : Bytes} {after : FileTree} :
    tree.write path content = .ok after ↔
      ∃ location mode, after = tree.put location (.file content mode) ∧
        (tree.resolve .file path = .ok (.vacant location) ∧ mode = ⟨true, false⟩ ∨
          ∃ old, tree.resolve .file path = .ok (.present location (.file old mode))) := by
  rw [FileTree.write]
  cases tree.resolve .file path with
  | error cause => simp [bind, Except.bind]
  | ok place =>
    rcases place with ⟨location, _ | _ | _⟩ | location <;>
      simp [bind, Except.bind, pure, Except.pure, throw, throwThe, MonadExceptOf.throw, eq_comm]

/-! ## The names of a tree -/

/-- The name of every entry can stand in a path. -/
def Named (tree : FileTree) : Prop :=
  ∀ item ∈ tree.entries, ∀ name ∈ item.1.getLast?, Path.IsPart name

instance (tree : FileTree) : Decidable tree.Named :=
  inferInstanceAs (Decidable (∀ item ∈ tree.entries, ∀ name ∈ item.1.getLast?, Path.IsPart name))

/-- What a path leads to is a directory, or its name is a part of a path. -/
theorem Walks.isPart_getLast? {aim : Aim} {links : Nat} {here : Location} {parts : List Name}
    {place : Place} (h : Walks tree aim links here parts place)
    (hparts : ∀ part ∈ parts, Path.slash ∉ part)
    (hplace : ∀ location, place ≠ .present location .directory) :
    ∀ name ∈ place.location.getLast?, Path.IsPart name := by
  induction h with
  | stop => exact absurd rfl (hplace _)
  | stay _ _ ih | up _ ih | enter _ _ _ ih => exact ih (List.forall_mem_cons.mp hparts).2 hplace
  | vacant hlook | file hlook | link hlook =>
    intro name hname
    rw [Place.location, List.getLast?_concat, Option.mem_some_iff] at hname
    exact hname ▸ ⟨hlook.name.nonempty, (List.forall_mem_cons.mp hparts).1⟩
  | through _ _ _ _ ih =>
    refine ih (List.forall_mem_append.mpr ⟨?_, (List.forall_mem_cons.mp hparts).2⟩) hplace
    exact fun _ => Path.slash_notMem_of_mem_parts

/-- **A write makes no name that cannot stand in a path.** -/
theorem Named.write (h : tree.Named) {path : Path} {content : Bytes} {after : FileTree}
    (hwrite : tree.write path content = .ok after) : after.Named := by
  obtain ⟨location, mode, rfl, hplace⟩ := write_eq_ok_iff.mp hwrite
  have hname : ∀ name ∈ location.getLast?, Path.IsPart name := by
    obtain ⟨hresolve, -⟩ | ⟨old, hresolve⟩ := hplace
    all_goals
      exact (resolve_eq_ok_iff.mp hresolve).2.isPart_getLast?
        (fun _ => Path.slash_notMem_of_mem_parts) (by simp)
  intro item hitem
  obtain rfl | hold := mem_put hitem
  · exact hname
  · exact h item hold

/-- The names in a directory of such a tree can stand in a path. -/
theorem Named.isPart_of_list (h : tree.Named) {path : Path} {entries : List (Name × Entry)}
    (hlist : tree.list path = .ok entries) {name : Name} (hname : name ∈ entries.map Prod.fst) :
    Path.IsPart name := by
  obtain ⟨directory, -, rfl⟩ := list_eq_ok_iff.mp hlist
  obtain ⟨⟨name, entry⟩, hmem, rfl⟩ := List.mem_map.mp hname
  exact h _ (mem_childrenOf_iff.mp hmem) name List.getLast?_concat

/-! ## Names in a directory -/

section Directory

variable {path : Path} {directory : Location}
  (hpath : tree.entry? path = .ok (directory, .directory))

include hpath

/-- What a path leads to that is seen from a directory is looked up from this directory on. -/
theorem exists_walks_of_resolve_child {aim : Aim} {name : Name} {place : Place}
    (hrelative : Path.isAbsolute ⟨name⟩ = false) (hname : ¬ IsEnd (Path.parts ⟨name⟩))
    (hresolve : tree.resolve aim (path.child name) = .ok place) :
    ∃ fewer, Walks tree aim fewer directory (Path.parts ⟨name⟩) place := by
  obtain ⟨hfollow, hwalk⟩ := resolve_eq_ok_iff.mp (entry?_eq_ok_iff.mp hpath)
  obtain ⟨between, -, hchild⟩ := Path.exists_bytes_child path hrelative
  have hbase : tree.base (path.child name) = tree.base path := by
    rw [base, base, hchild, isAbsolute_append hfollow.nonempty]
  have hall := (resolve_eq_ok_iff.mp hresolve).2
  rw [hbase] at hall
  obtain hparts | ⟨front, hdirectory, hparts⟩ :=
    Path.parts_child_cases hrelative hfollow.nonempty
  · rw [hparts] at hall
    exact hwalk.of_append hname hall
  · rw [hparts] at hall
    rw [hdirectory] at hwalk
    exact hwalk.of_slash.of_append hname hall

/-- A file that is written under a single name is put there, unless a link stands there. -/
theorem exists_put_of_write_child {name : Name} (hpart : Path.IsPart name) (hname : IsName name)
    (hlink : ∀ target, tree.at? (directory ++ [name]) ≠ some (.link target)) {content : Bytes}
    {after : FileTree} (hwrite : tree.write (path.child name) content = .ok after) :
    isWritable (tree.at? (directory ++ [name])) = true ∧
      ∃ mode, after = tree.put (directory ++ [name]) (.file content mode) := by
  obtain ⟨location, mode, rfl, hplace⟩ := write_eq_ok_iff.mp hwrite
  have hnot : ¬ IsEnd (Path.parts ⟨name⟩) := by
    rw [hpart.parts]
    exact hname.not_isEnd [] []
  have hwalk : ∀ {place}, tree.resolve .file (path.child name) = .ok place →
      ∃ fewer, Walks tree .file fewer directory [name] place := by
    intro place hresolve
    have hexists := exists_walks_of_resolve_child hpath hpart.isAbsolute hnot hresolve
    rwa [hpart.parts] at hexists
  have hstay : ¬ (name = [] ∨ name = [Path.dot]) := not_or.mpr ⟨hname.nonempty, hname.ne_dot⟩
  obtain ⟨hresolve, -⟩ | ⟨old, hresolve⟩ := hplace
  · obtain ⟨fewer, hwalk⟩ := hwalk hresolve
    cases hwalk with
    | stay hpart => exact absurd hpart hstay
    | up => exact absurd rfl hname.ne_dots
    | vacant _ hat => exact ⟨by rw [hat]; rfl, mode, rfl⟩
    | enter _ _ hrest => cases hrest
    | through _ hat => exact absurd hat (hlink _)
  · obtain ⟨fewer, hwalk⟩ := hwalk hresolve
    cases hwalk with
    | stay hpart => exact absurd hpart hstay
    | up => exact absurd rfl hname.ne_dots
    | enter _ _ hrest => cases hrest
    | file _ hat => exact ⟨by rw [hat]; rfl, mode, rfl⟩
    | through _ hat => exact absurd hat (hlink _)

/-- A single name under which a file is written can be looked up, and its path is short. -/
theorem canName_of_write_child {name : Name} (hpart : Path.IsPart name) (hname : IsName name)
    {content : Bytes} {after : FileTree}
    (hwrite : tree.write (path.child name) content = .ok after) :
    CanName name ∧ (path.child name).bytes.length < pathLimit := by
  obtain ⟨location, mode, -, hplace⟩ := write_eq_ok_iff.mp hwrite
  obtain ⟨place, hresolve⟩ : ∃ place, tree.resolve .file (path.child name) = .ok place :=
    hplace.elim (fun h => ⟨_, h.1⟩) fun ⟨_, h⟩ => ⟨_, h⟩
  have hfollow := (resolve_eq_ok_iff.mp hresolve).1
  have hwhole : 0 ∉ name := by
    obtain ⟨between, -, hchild⟩ := Path.exists_bytes_child path hpart.isAbsolute
    intro hzero
    exact hfollow.whole (by simp [hchild, hzero])
  have hshort : name.length < nameLimit := by
    have hnot : ¬ IsEnd (Path.parts ⟨name⟩) := by
      rw [hpart.parts]
      exact hname.not_isEnd [] []
    obtain ⟨fewer, hwalk⟩ := exists_walks_of_resolve_child hpath hpart.isAbsolute hnot hresolve
    rw [hpart.parts] at hwalk
    cases hwalk with
    | stay hstay => exact absurd hstay (not_or.mpr ⟨hname.nonempty, hname.ne_dot⟩)
    | up => exact absurd rfl hname.ne_dots
    | vacant hlook | enter hlook | file hlook | link hlook | through hlook => exact hlook.short
  exact ⟨⟨hpart, hname, hwhole, hshort⟩, hfollow.short⟩

/-- **A file that is written under a single name lies directly in the directory**, unless a link
stands there, and it is read as it was written, unless what stood there may not be read. -/
theorem list_write_child {name : Name} (hpart : Path.IsPart name) (hname : IsName name)
    (hlink : ∀ target, tree.at? (directory ++ [name]) ≠ some (.link target)) {content : Bytes}
    {after : FileTree} (hwrite : tree.write (path.child name) content = .ok after) :
    ∃ entries mode, after.list path = .ok entries ∧ (name, .file content mode) ∈ entries ∧
      after.read (path.child name) =
        if mode.readable then .ok content else .error .accessDenied := by
  obtain ⟨hcan, hshort⟩ := canName_of_write_child hpath hpart hname hwrite
  obtain ⟨hwritable, mode, rfl⟩ :=
    exists_put_of_write_child hpath hpart hname hlink hwrite
  have hentry := entry?_put hpath hwritable (.file content mode)
  refine ⟨_, mode, list_eq_ok_iff.mpr ⟨directory, hentry, rfl⟩,
    mem_childrenOf_iff.mpr (mem_put_self _ _ _), ?_⟩
  have hat : (tree.put (directory ++ [name]) (.file content mode)).at? (directory ++ [name]) =
      some (.file content mode) := by
    rw [at?_put (List.concat_ne_nil _ _), if_pos rfl]
  rw [read_child hentry hcan hat, if_neg (Nat.not_le.mpr hshort)]

/-- **Nothing can be written below a name** under which a directory has neither a directory nor a
link. -/
theorem exists_error_of_write_below {name first : Name} {rest : List Name}
    (hrelative : Path.isAbsolute ⟨name⟩ = false) (hparts : Path.parts ⟨name⟩ = first :: rest)
    (hfirst : IsName first) (hrest : ¬ IsEnd rest)
    (hwritable : isWritable (tree.at? (directory ++ [first])) = true) (content : Bytes) :
    ∃ cause, tree.write (path.child name) content = .error cause := by
  cases hwrite : tree.write (path.child name) content with
  | error cause => exact ⟨cause, rfl⟩
  | ok after =>
    have hnot : ¬ IsEnd (Path.parts ⟨name⟩) := by
      rw [hparts]
      exact hfirst.not_isEnd [] rest
    obtain ⟨location, mode, -, hplace⟩ := write_eq_ok_iff.mp hwrite
    obtain ⟨place, hresolve⟩ : ∃ place, tree.resolve .file (path.child name) = .ok place :=
      hplace.elim (fun h => ⟨_, h.1⟩) fun ⟨_, h⟩ => ⟨_, h⟩
    obtain ⟨fewer, hwalk⟩ := exists_walks_of_resolve_child hpath hrelative hnot hresolve
    rw [hparts] at hwalk
    cases hwalk with
    | stay hpart => exact absurd hpart (not_or.mpr ⟨hfirst.nonempty, hfirst.ne_dot⟩)
    | up => exact absurd rfl hfirst.ne_dots
    | vacant _ _ hend => exact absurd hend hrest
    | file _ _ hend =>
      obtain rfl | ⟨haim, -⟩ := hend
      · exact absurd (fun _ hmem => nomatch hmem) hrest
      · cases haim
    | link _ _ haim => cases haim
    | enter _ hat | through _ hat =>
      rw [hat] at hwritable
      cases hwritable

end Directory

end FileTree

end FunctionSearch
