import FunctionSearch.Proofs.Files.Path
import FunctionSearch.Proofs.Files.Shape

/-!
# Work inside a directory

When the path of a directory is followed, the paths of the names in it lead on from there, unless
they are too long. `Leads` says so of a path and a location, and gives what becomes of a new
directory (`Leads.makeDirectories`) or a new file (`Leads.write`) there: whether it can be made
depends on nothing but the length of its path.
-/

namespace FunctionSearch.FileTree

variable {tree : FileTree} {path : Path} {location : Location} {name : Name}

/-- A path, without a slash at its end, that leads to the directory at a location. -/
structure Leads (tree : FileTree) (path : Path) (location : Location) : Prop where
  nonempty : path.bytes ≠ []
  whole : 0 ∉ path.bytes
  bare : path.bytes.getLast? ≠ some Path.slash
  way : Walks tree .name linkLimit (tree.base path) path.parts (.present location .directory)

/-- A name that can be looked up in a directory. -/
structure CanName (name : Name) : Prop where
  part : Path.IsPart name
  proper : IsName name
  whole : 0 ∉ name
  short : name.length < nameLimit

instance (name : Name) : Decidable (CanName name) :=
  decidable_of_iff
    (name ≠ [] ∧ Path.slash ∉ name ∧ name ≠ [Path.dot] ∧ name ≠ [Path.dot, Path.dot] ∧ 0 ∉ name ∧
      name.length < nameLimit)
    ⟨fun ⟨hne, hslash, hdot, hdots, hwhole, hshort⟩ =>
      ⟨⟨hne, hslash⟩, ⟨hne, hdot, hdots⟩, hwhole, hshort⟩,
    fun h => ⟨h.part.nonempty, h.part.slash_notMem, h.proper.ne_dot, h.proper.ne_dots, h.whole,
      h.short⟩⟩

theorem CanName.looksUp (h : CanName name) (aim : Aim) : LooksUp aim name [] :=
  ⟨h.proper, h.short, fun _ _ => rfl⟩

theorem isAbsolute_append {path : Path} (hne : path.bytes ≠ []) (more : Bytes) :
    Path.isAbsolute ⟨path.bytes ++ more⟩ = path.isAbsolute := by
  obtain ⟨bytes⟩ := path
  cases bytes with
  | nil => exact absurd rfl hne
  | cons first rest => rfl

namespace Leads

theorem base_child (h : Leads tree path location) (hname : CanName name) :
    tree.base (path.child name) = tree.base path := by
  have hchild : path.child name = ⟨path.bytes ++ Path.slash :: name⟩ := by
    rw [← Path.bytes_child hname.part h.nonempty h.bare]
  rw [base, base, hchild, isAbsolute_append h.nonempty]

theorem whole_child (h : Leads tree path location) (hname : CanName name) :
    0 ∉ (path.child name).bytes := by
  rw [Path.bytes_child hname.part h.nonempty h.bare, List.mem_append, List.mem_cons]
  rintro (hmem | hmem | hmem)
  · exact h.whole hmem
  · cases hmem
  · exact hname.whole hmem

theorem nonempty_child (h : Leads tree path location) (hname : CanName name) :
    (path.child name).bytes ≠ [] := by
  rw [Path.bytes_child hname.part h.nonempty h.bare]
  simp

/-- The way to a name inside goes on from the directory. -/
theorem walks_child {aim : Aim} {place : Place} (h : Leads tree path location)
    (hname : CanName name) (hon : ∀ links, Walks tree aim links location [name] place) :
    Walks tree aim linkLimit (tree.base (path.child name)) (path.child name).parts place := by
  rw [h.base_child hname, Path.parts_child hname.part h.nonempty h.bare]
  exact h.way.append (hname.proper.not_isEnd [] []) hon

/-- **Where the path of a name inside leads**, unless it is too long. -/
theorem resolve_child {aim : Aim} {place : Place} (h : Leads tree path location)
    (hname : CanName name) (hon : ∀ links, Walks tree aim links location [name] place) :
    tree.resolve aim (path.child name) =
      if pathLimit ≤ (path.child name).bytes.length then .error .nameTooLong else .ok place := by
  split
  next hlong =>
    rw [resolve, if_pos]
    have hzero := h.whole_child hname
    simp [hlong, hzero]
  next hshort =>
    rw [resolve_eq_ok_iff]
    exact ⟨⟨h.nonempty_child hname, h.whole_child hname, Nat.not_le.mp hshort⟩,
      h.walks_child hname hon⟩

/-- A directory inside. -/
theorem child (h : Leads tree path location) (hname : CanName name)
    (hat : tree.at? (location ++ [name]) = some .directory) :
    Leads tree (path.child name) (location ++ [name]) where
  nonempty := h.nonempty_child hname
  whole := h.whole_child hname
  bare := by
    rw [Path.bytes_child hname.part h.nonempty h.bare, List.getLast?_append]
    intro hlast
    have hmem : Path.slash ∈ name := by
      rw [List.getLast?_cons, Option.some_or, Option.some.injEq] at hlast
      cases hlast' : name.getLast? with
      | none => exact absurd (List.getLast?_eq_none_iff.mp hlast') hname.part.nonempty
      | some last =>
        rw [hlast', Option.getD_some] at hlast
        exact hlast ▸ List.mem_of_getLast? hlast'
    exact hname.part.slash_notMem hmem
  way := h.walks_child hname fun _ => .enter (hname.looksUp _) hat .stop

/-- A change under another name that is free or stands for a file. -/
theorem put {other : Location} (h : Leads tree path location) (hother : other ≠ [])
    (hne : other ≠ location) (hwritable : isWritable (tree.at? other) = true) (entry : Entry) :
    Leads (tree.put other entry) path location where
  nonempty := h.nonempty
  whole := h.whole
  bare := h.bare
  way := by
    have hbase : (tree.put other entry).base path = tree.base path := by
      rw [base, base, workingDirectory_put]
    rw [hbase]
    have hspot : Writable tree (· = other) := by
      rintro _ rfl
      exact hwritable
    refine h.way.transfer (fun at_ hat => ?_) hspot (Ne.symm hne)
    rw [at?_put hother, if_neg hat]

/-- A new directory inside. -/
theorem makeDirectories (h : Leads tree path location) (hname : CanName name)
    (hat : tree.at? (location ++ [name]) = none) :
    tree.makeDirectories (path.child name) =
      if pathLimit ≤ (path.child name).bytes.length then .error .nameTooLong
      else .ok (tree.put (location ++ [name]) .directory) := by
  have hnonempty : (path.child name).bytes.isEmpty = false :=
    List.isEmpty_eq_false_iff.mpr (h.nonempty_child hname)
  have hresolve : ∀ aim, tree.resolve aim (path.child name) =
      if pathLimit ≤ (path.child name).bytes.length then .error .nameTooLong
      else .ok (.vacant (location ++ [name])) := fun aim =>
    h.resolve_child hname fun _ => .vacant (hname.looksUp aim) hat (by simp [IsEnd])
  rw [FileTree.makeDirectories, makeDirectoriesTo, hnonempty, if_neg Bool.false_ne_true]
  by_cases hlong : pathLimit ≤ (path.child name).bytes.length
  · have hmake : tree.makeDirectory (path.child name) = .error .nameTooLong := by
      rw [makeDirectory, hresolve, if_pos hlong]
      rfl
    have hnot : tree.isDirectory (path.child name) = false := by
      rw [isDirectory, entry?, hresolve, if_pos hlong]
      rfl
    have hother : (IoError.nameTooLong == IoError.notFound) = false := by decide
    simp only [hmake, hother, hnot, if_pos hlong, Bool.false_eq_true, if_false]
  · have hmake : tree.makeDirectory (path.child name) =
        .ok (tree.put (location ++ [name]) .directory) := by
      rw [makeDirectory, hresolve, if_neg hlong]
      rfl
    simp only [hmake, if_neg hlong]

/-- A new file inside. -/
theorem write (h : Leads tree path location) (hname : CanName name)
    (hat : tree.at? (location ++ [name]) = none) (content : Bytes) :
    tree.write (path.child name) content =
      if pathLimit ≤ (path.child name).bytes.length then .error .nameTooLong
      else .ok (tree.put (location ++ [name]) (.file content ⟨true, false⟩)) := by
  rw [FileTree.write, h.resolve_child hname fun _ =>
    .vacant (hname.looksUp .file) hat (by simp [IsEnd])]
  split <;> rfl

/-- A directory or file inside. -/
theorem entry?_child {entry : Entry} (h : Leads tree path location) (hname : CanName name)
    (hshort : (path.child name).bytes.length < pathLimit)
    (hat : tree.at? (location ++ [name]) = some entry) (hlink : ∀ target, entry ≠ .link target) :
    tree.entry? (path.child name) = .ok (location ++ [name], entry) := by
  have hon : ∀ links, Walks tree .entry links location [name]
      (.present (location ++ [name]) entry) := by
    intro links
    cases entry with
    | directory => exact .enter (hname.looksUp _) hat .stop
    | file content mode => exact .file (hname.looksUp _) hat (.inl rfl)
    | link target => exact absurd rfl (hlink target)
  rw [FileTree.entry?, h.resolve_child hname hon, if_neg (Nat.not_le.mpr hshort)]
  rfl

end Leads

/-! ## The names in a directory -/

section Names

variable {directory : Location} (hpath : tree.entry? path = .ok (directory, .directory))
  (hname : CanName name)

include hpath hname

/-- **Where the path of a name in a directory leads**, unless it is too long. -/
theorem resolve_child {aim : Aim} {place : Place}
    (hon : ∀ links, Walks tree aim links directory [name] place) :
    tree.resolve aim (path.child name) =
      if pathLimit ≤ (path.child name).bytes.length then .error .nameTooLong else .ok place := by
  obtain ⟨hfollow, hwalk⟩ := resolve_eq_ok_iff.mp (entry?_eq_ok_iff.mp hpath)
  obtain ⟨between, hbetween, hchild⟩ := Path.exists_bytes_child path hname.part.isAbsolute
  have hzero : 0 ∉ (path.child name).bytes := by
    have hslash : 0 ∉ between := by
      obtain rfl | rfl := hbetween <;> decide
    simp [hchild, hfollow.whole, hslash, hname.whole]
  split
  next hlong =>
    rw [resolve, if_pos]
    simp [hlong, hzero]
  next hshort =>
    have hbase : tree.base (path.child name) = tree.base path := by
      rw [base, base, hchild, isAbsolute_append hfollow.nonempty]
    have hnonempty : (path.child name).bytes ≠ [] := by
      simp [hchild, hfollow.nonempty]
    rw [resolve_eq_ok_iff]
    refine ⟨⟨hnonempty, hzero, Nat.not_le.mp hshort⟩, ?_⟩
    rw [hbase]
    have hcases := Path.parts_child_cases hname.part.isAbsolute hfollow.nonempty
    rw [hname.part.parts] at hcases
    obtain hparts | ⟨parts, hdirectory, hparts⟩ := hcases
    · rw [hparts]
      exact hwalk.append (hname.proper.not_isEnd [] []) hon
    · rw [hparts]
      rw [hdirectory] at hwalk
      exact hwalk.of_slash.append (hname.proper.not_isEnd [] []) hon

/-- **The path of a file in a directory leads to the file**, unless it is too long. -/
theorem entry?_child {content : Bytes} {mode : Mode}
    (hat : tree.at? (directory ++ [name]) = some (.file content mode)) :
    tree.entry? (path.child name) =
      if pathLimit ≤ (path.child name).bytes.length then .error .nameTooLong
      else .ok (directory ++ [name], .file content mode) := by
  rw [FileTree.entry?, resolve_child hpath hname fun _ => .file (hname.looksUp _) hat (.inl rfl)]
  split <;> rfl

/-- **A file in a directory is read by its path**, unless this is too long or it may not be read. -/
theorem read_child {content : Bytes} {mode : Mode}
    (hat : tree.at? (directory ++ [name]) = some (.file content mode)) :
    tree.read (path.child name) =
      if pathLimit ≤ (path.child name).bytes.length then .error .nameTooLong
      else if mode.readable then .ok content else .error .accessDenied := by
  have hentry := entry?_child hpath hname hat
  by_cases hlong : pathLimit ≤ (path.child name).bytes.length
  · rw [if_pos hlong] at hentry ⊢
    rw [FileTree.read, hentry]
    rfl
  · rw [if_neg hlong] at hentry ⊢
    exact read_of_file hentry

/-- **A file can be written under a free name of a directory**, unless its path is too long. -/
theorem write_child (hat : tree.at? (directory ++ [name]) = none) (content : Bytes) :
    tree.write (path.child name) content =
      if pathLimit ≤ (path.child name).bytes.length then .error .nameTooLong
      else .ok (tree.put (directory ++ [name]) (.file content ⟨true, false⟩)) := by
  rw [FileTree.write, resolve_child hpath hname fun _ =>
    .vacant (hname.looksUp .file) hat (by simp [IsEnd])]
  split <;> rfl

omit hname in
/-- The path of a directory still leads there when something is put under a name in it that is free
or stands for a file. -/
theorem entry?_put (hwritable : isWritable (tree.at? (directory ++ [name])) = true)
    (entry : Entry) :
    FileTree.entry? (tree.put (directory ++ [name]) entry) path = .ok (directory, .directory) := by
  have hspot : Writable tree (· = directory ++ [name]) := by
    rintro _ rfl
    exact hwritable
  refine entry?_transfer (workingDirectory_put ..) (fun location hlocation => ?_) hspot hpath ?_
  · rw [at?_put (List.concat_ne_nil _ _), if_neg hlocation]
  · simp

end Names

end FunctionSearch.FileTree
