import FunctionSearch.Files.Tree
import Mathlib.Data.List.Basic

/-!
# Where paths lead

`Walks` is the way of a path as a relation, with one rule for every kind of step, so that what holds
of every way is shown rule by rule. It is what `walk` computes (`walk_eq_ok_iff`).
-/

namespace FunctionSearch

/-- The location that a path leads to. -/
def Place.location : Place → Location
  | .present location _ => location
  | .vacant location => location

namespace FileTree

/-- A part of a path that is not passed over: it is not empty, and not one or two points. -/
structure IsName (part : Name) : Prop where
  nonempty : part ≠ []
  ne_dot : part ≠ [Path.dot]
  ne_dots : part ≠ [Path.dot, Path.dot]

/-- Whether nothing but slashes is left of a path. -/
def IsEnd (rest : List Name) : Prop :=
  ∀ part ∈ rest, part = []

/-- A part of a path that is looked up, with what follows. -/
structure LooksUp (aim : Aim) (part : Name) (rest : List Name) : Prop where
  name : IsName part
  short : part.length < nameLimit
  bare : aim = .file → IsEnd rest → rest = []

/-- The way of a path from a directory, through at most so many symbolic links. -/
inductive Walks (tree : FileTree) (aim : Aim) : Nat → Location → List Name → Place → Prop
  | stop {links : Nat} {here : Location} : Walks tree aim links here [] (.present here .directory)
  | stay {links : Nat} {here : Location} {part : Name} {rest : List Name} {place : Place}
    (hpart : part = [] ∨ part = [Path.dot]) (hrest : Walks tree aim links here rest place) :
    Walks tree aim links here (part :: rest) place
  | up {links : Nat} {here : Location} {rest : List Name} {place : Place}
    (hrest : Walks tree aim links here.dropLast rest place) :
    Walks tree aim links here ([Path.dot, Path.dot] :: rest) place
  | vacant {links : Nat} {here : Location} {part : Name} {rest : List Name}
    (hlook : LooksUp aim part rest) (hat : tree.at? (here ++ [part]) = none)
    (hend : IsEnd rest) :
    Walks tree aim links here (part :: rest) (.vacant (here ++ [part]))
  | enter {links : Nat} {here : Location} {part : Name} {rest : List Name} {place : Place}
    (hlook : LooksUp aim part rest) (hat : tree.at? (here ++ [part]) = some .directory)
    (hrest : Walks tree aim links (here ++ [part]) rest place) :
    Walks tree aim links here (part :: rest) place
  | file {links : Nat} {here : Location} {part : Name} {rest : List Name} {content : Bytes}
    {mode : Mode} (hlook : LooksUp aim part rest)
    (hat : tree.at? (here ++ [part]) = some (.file content mode))
    (hend : rest = [] ∨ aim = .name ∧ IsEnd rest) :
    Walks tree aim links here (part :: rest)
      (.present (here ++ [part]) (.file content mode))
  | link {links : Nat} {here : Location} {part : Name} {rest : List Name} {target : Path}
    (hlook : LooksUp aim part rest) (hat : tree.at? (here ++ [part]) = some (.link target))
    (haim : aim = .name) (hend : IsEnd rest) :
    Walks tree aim links here (part :: rest) (.present (here ++ [part]) (.link target))
  | through {links : Nat} {here : Location} {part : Name} {rest : List Name} {target : Path}
    {place : Place} (hlook : LooksUp aim part rest)
    (hat : tree.at? (here ++ [part]) = some (.link target)) (hpass : aim = .name → ¬ IsEnd rest)
    (hrest : Walks tree aim links (if target.isAbsolute then [] else here) (target.parts ++ rest)
      place) :
    Walks tree aim (links + 1) here (part :: rest) place

/-! ## The relation and the function -/

section Function

variable {tree : FileTree} {aim : Aim}
  {again : Location → List Name → Except IoError Place} {here : Location} {part : Name}
  {rest : List Name}

theorem all_isEmpty_iff : rest.all (·.isEmpty) = true ↔ IsEnd rest := by
  simp [IsEnd]

/-- A part that is looked up leads on from what is found. -/
theorem walkParts_of_looksUp (h : LooksUp aim part rest) :
    tree.walkParts aim again here (part :: rest) =
      match tree.at? (here ++ [part]) with
      | none => if rest.all (·.isEmpty) then .ok (.vacant (here ++ [part])) else .error .notFound
      | some .directory => tree.walkParts aim again (here ++ [part]) rest
      | some (.file content mode) =>
        if rest.isEmpty || (aim == .name && rest.all (·.isEmpty)) then
          .ok (.present (here ++ [part]) (.file content mode))
        else .error .notDirectory
      | some (.link target) =>
        if aim == .name && rest.all (·.isEmpty) then
          .ok (.present (here ++ [part]) (.link target))
        else again (if target.isAbsolute then [] else here) (target.parts ++ rest) := by
  have hstay : (part.isEmpty || part == [Path.dot]) = false := by
    simp [h.name.nonempty, h.name.ne_dot]
  have hup : (part == [Path.dot, Path.dot]) = false := by
    simp [h.name.ne_dots]
  have hbare : (aim == .file && rest.all (·.isEmpty) && !rest.isEmpty) = false := by
    rw [Bool.eq_false_iff]
    intro hslash
    simp only [Bool.and_eq_true, Bool.not_eq_true', beq_iff_eq, all_isEmpty_iff] at hslash
    have hnil := h.bare hslash.1.1 hslash.1.2
    simp [hnil] at hslash
  rw [walkParts]
  rcases tree.at? (here ++ [part]) with _ | _ | _ | _
  all_goals
    simp only [hstay, hup, hbare, Bool.false_eq_true, if_false, if_neg (Nat.not_le.mpr h.short)]

/-- A part that is neither passed over nor looked up is an error. -/
theorem looksUp_of_walkParts {place : Place} (hstay : ¬ (part = [] ∨ part = [Path.dot]))
    (hup : part ≠ [Path.dot, Path.dot])
    (h : tree.walkParts aim again here (part :: rest) = .ok place) : LooksUp aim part rest := by
  rw [not_or] at hstay
  have hstay' : (part.isEmpty || part == [Path.dot]) = false := by simp [hstay.1, hstay.2]
  have hup' : (part == [Path.dot, Path.dot]) = false := by simp [hup]
  rw [walkParts] at h
  simp only [hstay', hup', Bool.false_eq_true, if_false] at h
  split at h
  · cases h
  next hbare =>
    split at h
    · cases h
    next hshort =>
      refine ⟨⟨hstay.1, hstay.2, hup⟩, Nat.not_le.mp hshort, fun haim hend => ?_⟩
      by_contra hne
      exact hbare (by simp [haim, all_isEmpty_iff.mpr hend, hne])

theorem walks_of_walkParts {links : Nat} {parts : List Name} {place : Place}
    (hagain : ∀ here parts place, again here parts = .ok place →
      ∃ fewer, links = fewer + 1 ∧ Walks tree aim fewer here parts place)
    (h : tree.walkParts aim again here parts = .ok place) :
    Walks tree aim links here parts place := by
  induction parts generalizing here with
  | nil =>
    cases h
    exact .stop
  | cons part rest ih =>
    by_cases hstay : part = [] ∨ part = [Path.dot]
    · rw [walkParts, if_pos (by simpa using hstay)] at h
      exact .stay hstay (ih h)
    by_cases hup : part = [Path.dot, Path.dot]
    · subst hup
      exact .up (ih h)
    have hlook := looksUp_of_walkParts hstay hup h
    rw [walkParts_of_looksUp hlook] at h
    cases hat : tree.at? (here ++ [part]) with
    | none =>
      simp only [hat] at h
      split at h
      next hend =>
        cases h
        exact .vacant hlook hat (all_isEmpty_iff.mp hend)
      · cases h
    | some entry =>
      cases entry with
      | directory =>
        simp only [hat] at h
        exact .enter hlook hat (ih h)
      | file content mode =>
        simp only [hat] at h
        split at h
        next hend =>
          cases h
          rw [Bool.or_eq_true, Bool.and_eq_true, all_isEmpty_iff, List.isEmpty_iff,
            beq_iff_eq] at hend
          exact .file hlook hat hend
        · cases h
      | link target =>
        simp only [hat] at h
        split at h
        next hend =>
          cases h
          rw [Bool.and_eq_true, all_isEmpty_iff, beq_iff_eq] at hend
          exact .link hlook hat hend.1 hend.2
        next hpass =>
          rw [Bool.and_eq_true, all_isEmpty_iff, beq_iff_eq] at hpass
          obtain ⟨fewer, rfl, hrest⟩ := hagain _ _ _ h
          exact .through hlook hat (fun haim hend => hpass ⟨haim, hend⟩) hrest

/-- **The relation is what the function computes.** -/
theorem walk_eq_ok_iff {links : Nat} {parts : List Name} {place : Place} :
    tree.walk aim links here parts = .ok place ↔ Walks tree aim links here parts place := by
  constructor
  · intro h
    induction links generalizing here parts place with
    | zero => exact walks_of_walkParts (fun _ _ _ hagain => by cases hagain) h
    | succ links ih => exact walks_of_walkParts (fun _ _ _ hagain => ⟨links, rfl, ih hagain⟩) h
  · intro h
    -- one link less is left behind a link only, so the rules are followed for any number of links
    induction h with
    | @stop links here => cases links <;> rfl
    | @stay links here part rest place hpart _ ih =>
      have hstay : (part.isEmpty || part == [Path.dot]) = true := by simpa using hpart
      cases links <;> rwa [walk, walkParts, if_pos hstay]
    | @up links here rest place _ ih => cases links <;> exact ih
    | @vacant links _ _ _ hlook hat hend =>
      cases links <;>
        simp only [walk, walkParts_of_looksUp hlook, hat, if_pos (all_isEmpty_iff.mpr hend)]
    | @enter links _ _ _ _ hlook hat _ ih =>
      cases links <;> simp only [walk, walkParts_of_looksUp hlook, hat] <;> exact ih
    | @file links _ _ rest _ _ hlook hat hend =>
      have hlast : (rest.isEmpty || (aim == .name && rest.all (·.isEmpty))) = true := by
        simpa only [Bool.or_eq_true, Bool.and_eq_true, all_isEmpty_iff, List.isEmpty_iff,
          beq_iff_eq] using hend
      cases links <;> simp only [walk, walkParts_of_looksUp hlook, hat, if_pos hlast]
    | @link links _ _ rest _ hlook hat haim hend =>
      have hlast : (aim == .name && rest.all (·.isEmpty)) = true := by
        simpa only [Bool.and_eq_true, all_isEmpty_iff, beq_iff_eq] using ⟨haim, hend⟩
      cases links <;> simp only [walk, walkParts_of_looksUp hlook, hat, if_pos hlast]
    | @through links _ _ rest _ _ hlook hat hpass _ ih =>
      have hmore : (aim == .name && rest.all (·.isEmpty)) = false := by
        rw [Bool.eq_false_iff]
        simp only [ne_eq, Bool.and_eq_true, all_isEmpty_iff, beq_iff_eq, not_and]
        exact hpass
      simp only [walk, walkParts_of_looksUp hlook, hat, hmore, Bool.false_eq_true, if_false]
      exact ih

end Function

/-! ## What a way depends on -/

/-- Whether a name is free or stands for a file, so that no way leads on from it. -/
def isWritable : Option Entry → Bool
  | none | some (.file ..) => true
  | _ => false

/-- Spots of a tree that files can be written into. -/
def Writable (tree : FileTree) (spot : Location → Prop) : Prop :=
  ∀ location, spot location → isWritable (tree.at? location) = true

theorem Writable.not_spot {tree : FileTree} {spot : Location → Prop} (hspot : Writable tree spot)
    {location : Location} {entry : Entry} (hat : tree.at? location = some entry)
    (hentry : isWritable (some entry) = false) : ¬ spot location := by
  intro hmem
  have hwritable := hspot location hmem
  rw [hat, hentry] at hwritable
  cases hwritable

section Ways

variable {tree tree' : FileTree} {aim : Aim} {links : Nat} {here : Location} {parts : List Name}
  {place : Place}

/-- **A way stays the same if the tree changes where no way leads on**, unless it ends there. -/
theorem Walks.transfer {spot : Location → Prop}
    (hagree : ∀ location, ¬ spot location → tree'.at? location = tree.at? location)
    (hspot : Writable tree spot) (h : Walks tree aim links here parts place)
    (hplace : ¬ spot place.location) : Walks tree' aim links here parts place := by
  have hsolid : ∀ {location entry}, tree.at? location = some entry →
      isWritable (some entry) = false → tree'.at? location = some entry := by
    intro location entry hat hentry
    exact (hagree location (hspot.not_spot hat hentry)).trans hat
  induction h with
  | stop => exact .stop
  | stay hpart _ ih => exact .stay hpart (ih hplace)
  | up _ ih => exact .up (ih hplace)
  | vacant hlook hat hend => exact .vacant hlook ((hagree _ hplace).trans hat) hend
  | enter hlook hat _ ih => exact .enter hlook (hsolid hat rfl) (ih hplace)
  | file hlook hat hend => exact .file hlook ((hagree _ hplace).trans hat) hend
  | link hlook hat haim hend => exact .link hlook (hsolid hat rfl) haim hend
  | through hlook hat hpass _ ih => exact .through hlook (hsolid hat rfl) hpass (ih hplace)

theorem IsName.not_isEnd {name : Name} (h : IsName name) (parts rest : List Name) :
    ¬ IsEnd (parts ++ name :: rest) :=
  fun hend => h.nonempty (hend name (by simp))

/-- A way that is followed for the name at its end ends at this name. -/
theorem Walks.getLast?_location {name : Name} (hname : IsName name) {parts : List Name}
    (h : Walks tree .name links here (parts ++ [name]) place) :
    place.location.getLast? = some name := by
  -- the rules take the first part off, so the last one stays in sight behind any parts
  generalize hall : parts ++ [name] = all at h
  have hrest : ∀ {part : Name} {rest : List Name} {parts : List Name},
      parts ++ [name] = part :: rest →
        parts = [] ∧ part = name ∧ rest = [] ∨ ∃ parts', rest = parts' ++ [name] := by
    intro part rest parts hparts
    cases parts with
    | nil =>
      cases hparts
      exact .inl ⟨rfl, rfl, rfl⟩
    | cons first parts =>
      cases hparts
      exact .inr ⟨parts, rfl⟩
  have hends : ∀ {part : Name} {rest : List Name} {parts : List Name},
      parts ++ [name] = part :: rest → IsEnd rest → part = name := by
    intro part rest parts hparts hend
    obtain ⟨-, rfl, -⟩ | ⟨parts', rfl⟩ := hrest hparts
    · rfl
    · exact absurd hend (hname.not_isEnd parts' [])
  induction h generalizing parts with
  | stop => simp at hall
  | stay hpart _ ih =>
    obtain ⟨-, rfl, -⟩ | ⟨parts', rfl⟩ := hrest hall
    · exact absurd hpart (not_or.mpr ⟨hname.nonempty, hname.ne_dot⟩)
    · exact ih rfl
  | up _ ih =>
    obtain ⟨-, rfl, -⟩ | ⟨parts', rfl⟩ := hrest hall
    · exact absurd rfl hname.ne_dots
    · exact ih rfl
  | vacant _ _ hend => simp [Place.location, hends hall hend]
  | enter _ _ hwalk ih =>
    obtain ⟨-, rfl, rfl⟩ | ⟨parts', rfl⟩ := hrest hall
    · cases hwalk
      simp [Place.location]
    · exact ih rfl
  | file _ _ hend =>
    have hend := hend.elim (fun hnil => by simp [hnil, IsEnd]) And.right
    simp [Place.location, hends hall hend]
  | link _ _ _ hend => simp [Place.location, hends hall hend]
  | through _ _ hpass _ ih =>
    obtain ⟨-, -, rfl⟩ | ⟨parts', rfl⟩ := hrest hall
    · exact absurd (by simp [IsEnd]) (hpass rfl)
    · exact ih (List.append_assoc _ _ _)

/-- A free name is one in a directory. -/
theorem Walks.exists_parent (hup : ∀ location, tree.at? location = some .directory →
      tree.at? location.dropLast = some .directory)
    (h : Walks tree aim links here parts place) (hhere : tree.at? here = some .directory)
    {location : Location} (hplace : place = .vacant location) :
    ∃ parent name, location = parent ++ [name] ∧ tree.at? parent = some .directory ∧
      tree.at? location = none := by
  induction h with
  | stop | file | link => cases hplace
  | stay _ _ ih => exact ih hhere hplace
  | up _ ih => exact ih (hup _ hhere) hplace
  | vacant _ hat _ =>
    cases hplace
    exact ⟨_, _, rfl, hhere, hat⟩
  | enter _ hat _ ih => exact ih hat hplace
  | through _ _ _ _ ih =>
    refine ih ?_ hplace
    split
    · rfl
    · exact hhere

/-- What a way leads to stands at its end. -/
theorem Walks.at?_present (hup : ∀ location, tree.at? location = some .directory →
      tree.at? location.dropLast = some .directory)
    (h : Walks tree aim links here parts place) (hhere : tree.at? here = some .directory)
    {location : Location} {entry : Entry} (hplace : place = .present location entry) :
    tree.at? location = some entry := by
  induction h with
  | stop =>
    cases hplace
    exact hhere
  | stay _ _ ih => exact ih hhere hplace
  | up _ ih => exact ih (hup _ hhere) hplace
  | vacant => cases hplace
  | enter _ hat _ ih => exact ih hat hplace
  | file _ hat _ | link _ hat _ _ =>
    cases hplace
    exact hat
  | through _ _ _ _ ih =>
    refine ih ?_ hplace
    split
    · rfl
    · exact hhere

/-! ## Ways that go on -/

theorem LooksUp.of_not_isEnd {aim aim' : Aim} {part : Name} {rest rest' : List Name}
    (h : LooksUp aim part rest) (hrest : ¬ IsEnd rest') : LooksUp aim' part rest' :=
  ⟨h.name, h.short, fun _ hend => absurd hend hrest⟩

theorem walks_of_isEnd {rest : List Name} (h : IsEnd rest) :
    Walks tree aim links here rest (.present here .directory) := by
  induction rest with
  | nil => exact .stop
  | cons part rest ih =>
    exact .stay (.inl (h part List.mem_cons_self)) (ih fun other hmem => h other (by simp [hmem]))

/-- **A way to a directory goes on inside it.** -/
theorem Walks.append {aim' : Aim} {directory : Location} {more : List Name} {place : Place}
    (h : Walks tree aim links here parts (.present directory .directory)) (hmore : ¬ IsEnd more)
    (hon : ∀ links, Walks tree aim' links directory more place) :
    Walks tree aim' links here (parts ++ more) place := by
  have hnot : ∀ rest : List Name, ¬ IsEnd (rest ++ more) :=
    fun rest hend => hmore fun part hmem => hend part (List.mem_append_right rest hmem)
  generalize hplace : Place.present directory .directory = goal at h
  induction h with
  | stop =>
    cases hplace
    exact hon _
  | stay hpart _ ih => exact .stay hpart (ih hplace)
  | up _ ih => exact .up (ih hplace)
  | vacant | file | link => cases hplace
  | enter hlook hat _ ih => exact .enter (hlook.of_not_isEnd (hnot _)) hat (ih hplace)
  | through hlook hat _ _ ih =>
    have hwalk := ih hplace
    rw [List.append_assoc] at hwalk
    exact .through (hlook.of_not_isEnd (hnot _)) hat (fun _ => hnot _) hwalk

/-- A way to a free name leads to the directory that is made there. -/
theorem Walks.filled {location : Location} (hat : tree'.at? location = some .directory)
    (hkeep : ∀ location entry, tree.at? location = some entry →
      isWritable (some entry) = false → tree'.at? location = some entry)
    (h : Walks tree .name links here parts (.vacant location)) :
    Walks tree' .name links here parts (.present location .directory) := by
  generalize hplace : Place.vacant location = goal at h
  induction h with
  | stop | file | link => cases hplace
  | stay hpart _ ih => exact .stay hpart (ih hplace)
  | up _ ih => exact .up (ih hplace)
  | vacant hlook _ hend =>
    cases hplace
    exact .enter hlook hat (walks_of_isEnd hend)
  | enter hlook hdir _ ih => exact .enter hlook (hkeep _ _ hdir rfl) (ih hplace)
  | through hlook hlink hpass _ ih =>
    exact .through hlook (hkeep _ _ hlink rfl) hpass (ih hplace)

/-- A slash at the end of the path of a directory can be left out. -/
theorem Walks.of_slash {parts : List Name} {directory : Location}
    (h : Walks tree .entry links here (parts ++ [[]]) (.present directory .directory)) :
    Walks tree .entry links here parts (.present directory .directory) := by
  generalize hall : parts ++ [[]] = all at h
  generalize hplace : Place.present directory .directory = goal at h ⊢
  have hlook' : ∀ {part : Name} {rest rest' : List Name}, LooksUp .entry part rest →
      LooksUp .entry part rest' := fun h => ⟨h.name, h.short, fun haim => by cases haim⟩
  induction h generalizing parts with
  | stop => simp at hall
  | stay hpart hwalk ih =>
    cases parts with
    | nil =>
      cases hall
      exact hwalk
    | cons part parts =>
      cases hall
      exact .stay hpart (ih rfl hplace)
  | up hwalk ih =>
    cases parts with
    | nil => cases hall
    | cons part parts =>
      cases hall
      exact .up (ih rfl hplace)
  | vacant | file | link => cases hplace
  | enter hlook hat _ ih =>
    cases parts with
    | nil =>
      cases hall
      exact absurd rfl hlook.name.nonempty
    | cons part parts =>
      cases hall
      exact .enter (hlook' hlook) hat (ih rfl hplace)
  | through hlook hat hpass _ ih =>
    cases parts with
    | nil =>
      cases hall
      exact absurd rfl hlook.name.nonempty
    | cons part parts =>
      cases hall
      refine .through (hlook' hlook) hat (fun haim => by cases haim) ?_
      exact ih (List.append_assoc _ _ _) hplace

/-- A way to an entry is one to a name as well: the same one, or that of a link in front of it. -/
theorem Walks.exists_name {location : Location} {entry : Entry}
    (h : Walks tree .entry links here parts (.present location entry)) :
    ∃ location' entry', Walks tree .name links here parts (.present location' entry') := by
  generalize hplace : Place.present location entry = goal at h
  have hlook' : ∀ {part : Name} {rest : List Name}, LooksUp .entry part rest →
      LooksUp .name part rest := fun h => ⟨h.name, h.short, fun haim => by cases haim⟩
  induction h with
  | stop => exact ⟨_, _, .stop⟩
  | stay hpart _ ih =>
    obtain ⟨location', entry', hwalk⟩ := ih hplace
    exact ⟨location', entry', .stay hpart hwalk⟩
  | up _ ih =>
    obtain ⟨location', entry', hwalk⟩ := ih hplace
    exact ⟨location', entry', .up hwalk⟩
  | vacant => cases hplace
  | enter hlook hat _ ih =>
    obtain ⟨location', entry', hwalk⟩ := ih hplace
    exact ⟨location', entry', .enter (hlook' hlook) hat hwalk⟩
  | file hlook hat hend =>
    obtain hnil | ⟨haim, -⟩ := hend
    · exact ⟨_, _, .file (hlook' hlook) hat (.inl hnil)⟩
    · cases haim
  | link _ _ haim _ => cases haim
  | @through _ _ _ rest _ _ hlook hat _ _ ih =>
    by_cases hend : IsEnd rest
    · exact ⟨_, _, .link (hlook' hlook) hat rfl hend⟩
    · obtain ⟨location', entry', hwalk⟩ := ih hplace
      exact ⟨location', entry', .through (hlook' hlook) hat (fun _ => hend) hwalk⟩

end Ways

/-! ## Whole paths -/

/-- A path that is followed at once. -/
structure CanFollow (path : Path) : Prop where
  nonempty : path.bytes ≠ []
  whole : 0 ∉ path.bytes
  short : path.bytes.length < pathLimit

/-- The directory that a path starts in. -/
def base (tree : FileTree) (path : Path) : Location :=
  if path.isAbsolute then [] else tree.workingDirectory

theorem resolve_eq_ok_iff {tree : FileTree} {aim : Aim} {path : Path} {place : Place} :
    tree.resolve aim path = .ok place ↔
      CanFollow path ∧ Walks tree aim linkLimit (tree.base path) path.parts place := by
  rw [← walk_eq_ok_iff, resolve, follow]
  constructor
  · intro h
    split at h
    · cases h
    next hlimit =>
      split at h
      · cases h
      next hnonempty =>
        split at h
        · cases h
        next hzero =>
          simp only [Bool.and_eq_true, decide_eq_true_eq, Bool.not_eq_true', hzero, and_true,
            Nat.not_le] at hlimit
          refine ⟨⟨fun hnil => hnonempty (by simp [hnil]), fun hmem => hzero ?_, hlimit⟩, h⟩
          simpa using hmem
  · intro ⟨hfollow, h⟩
    have hlimit : ¬ pathLimit ≤ path.bytes.length := Nat.not_le.mpr hfollow.short
    have hnonempty : path.bytes.isEmpty = false := by simp [hfollow.nonempty]
    have hzero : path.bytes.contains 0 = false := by simp [hfollow.whole]
    simp only [hlimit, hnonempty, hzero, decide_false, Bool.false_and, Bool.false_eq_true, if_false]
    exact h

theorem entry?_eq_ok_iff {tree : FileTree} {path : Path} {location : Location} {entry : Entry} :
    tree.entry? path = .ok (location, entry) ↔
      tree.resolve .entry path = .ok (.present location entry) := by
  rw [FileTree.entry?]
  cases tree.resolve .entry path with
  | error cause => simp [bind, Except.bind]
  | ok place =>
    cases place <;>
      simp [bind, Except.bind, pure, Except.pure, throw, throwThe, MonadExceptOf.throw]

/-- What reading a file gives. -/
theorem read_of_file {tree : FileTree} {path : Path} {location : Location} {content : Bytes}
    {mode : Mode} (hentry : tree.entry? path = .ok (location, .file content mode)) :
    tree.read path = if mode.readable then .ok content else .error .accessDenied := by
  rw [FileTree.read, hentry]
  rfl

/-- No directory is made where something stands. -/
theorem makeDirectory_of_entry? {tree : FileTree} {path : Path} {location : Location}
    {entry : Entry} (h : tree.entry? path = .ok (location, entry)) :
    tree.makeDirectory path = .error .exists_ := by
  obtain ⟨hfollow, hwalk⟩ := resolve_eq_ok_iff.mp (entry?_eq_ok_iff.mp h)
  obtain ⟨location', entry', hname⟩ := hwalk.exists_name
  rw [makeDirectory, resolve_eq_ok_iff.mpr ⟨hfollow, hname⟩]
  rfl

/-- **A directory that is there already is left as it is.** -/
theorem makeDirectories_of_isDirectory {tree : FileTree} {path : Path}
    (h : tree.isDirectory path = true) : tree.makeDirectories path = .ok tree := by
  have hmake : tree.makeDirectory path = .error .exists_ := by
    rw [isDirectory] at h
    split at h
    · next hentry => exact makeDirectory_of_entry? hentry
    · cases h
  rw [makeDirectories, makeDirectoriesTo, hmake, h]
  split
  · rfl
  · exact if_neg (by decide)

section Transfer

variable {tree tree' : FileTree} {spot : Location → Prop} {path : Path}
  (hworking : tree'.workingDirectory = tree.workingDirectory)
  (hagree : ∀ location, ¬ spot location → tree'.at? location = tree.at? location)
  (hspot : Writable tree spot)

include hworking hagree hspot

/-- **What a path leads to stays** if the tree changes in other spots, from which no way leads
on. -/
theorem resolve_transfer {aim : Aim} {place : Place} (hresolve : tree.resolve aim path = .ok place)
    (hplace : ¬ spot place.location) : tree'.resolve aim path = .ok place := by
  rw [resolve_eq_ok_iff] at hresolve ⊢
  have hbase : tree'.base path = tree.base path := by
    rw [base, base, hworking]
  rw [hbase]
  exact ⟨hresolve.1, hresolve.2.transfer hagree hspot hplace⟩

theorem entry?_transfer {location : Location} {entry : Entry}
    (hentry : tree.entry? path = .ok (location, entry)) (hplace : ¬ spot location) :
    tree'.entry? path = .ok (location, entry) := by
  rw [entry?_eq_ok_iff] at hentry ⊢
  exact resolve_transfer hworking hagree hspot hentry hplace

end Transfer

end FileTree

end FunctionSearch
