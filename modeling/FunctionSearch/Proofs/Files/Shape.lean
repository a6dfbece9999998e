import FunctionSearch.Proofs.Files.Reorder
import FunctionSearch.Proofs.Files.Walk
import Mathlib.Data.List.Induction
import Mathlib.Data.List.Nodup

/-!
# The shape of file trees

A tree is `WellFormed` if every location stands once, and below a directory. Then a directory lists
a name exactly if there is an entry under it (`WellFormed.mem_names_iff`), and each name once
(`WellFormed.nodup_names`). Putting an entry under a name that is free or stands for a file, and
removing a directory, keep this shape (`WellFormed.put`, `WellFormed.remove`).
-/

namespace FunctionSearch.FileTree

variable {tree : FileTree} {location : Location} {entry : Entry}

/-- Every location stands once, and below a directory. -/
structure WellFormed (tree : FileTree) : Prop where
  nodup : (tree.entries.map Prod.fst).Nodup
  nonempty : ∀ item ∈ tree.entries, item.1 ≠ []
  parent : ∀ item ∈ tree.entries, tree.at? item.1.dropLast = some .directory
  workingDirectory : tree.at? tree.workingDirectory = some .directory

instance (tree : FileTree) : Decidable tree.WellFormed :=
  decidable_of_iff
    ((tree.entries.map Prod.fst).Nodup ∧ (∀ item ∈ tree.entries, item.1 ≠ []) ∧
      (∀ item ∈ tree.entries, tree.at? item.1.dropLast = some .directory) ∧
      tree.at? tree.workingDirectory = some .directory)
    ⟨fun ⟨h₁, h₂, h₃, h₄⟩ => ⟨h₁, h₂, h₃, h₄⟩, fun ⟨h₁, h₂, h₃, h₄⟩ => ⟨h₁, h₂, h₃, h₄⟩⟩

/-! ## Entries -/

@[simp] theorem at?_nil : tree.at? [] = some .directory := rfl

theorem at?_of_ne_nil (h : location ≠ []) : tree.at? location = tree.entries.lookup location := by
  rw [at?, List.isEmpty_eq_false_iff.mpr h]
  rfl

theorem WellFormed.at?_eq_some_iff (h : tree.WellFormed) (hlocation : location ≠ []) :
    tree.at? location = some entry ↔ (location, entry) ∈ tree.entries := by
  rw [at?_of_ne_nil hlocation]
  exact lookup_eq_some_iff_mem h.nodup

/-- What stands below an entry stands below a directory. -/
theorem WellFormed.at?_dropLast (h : tree.WellFormed) (hat : tree.at? location = some entry) :
    tree.at? location.dropLast = some .directory := by
  by_cases hlocation : location = []
  · subst hlocation
    rfl
  · exact h.parent _ ((h.at?_eq_some_iff hlocation).mp hat)

/-- **Everything above an entry is a directory.** -/
theorem WellFormed.at?_above (h : tree.WellFormed) {below : Location} (hbelow : below ≠ [])
    (hat : tree.at? (location ++ below) = some entry) : tree.at? location = some .directory := by
  induction below using List.reverseRecOn generalizing entry with
  | nil => exact absurd rfl hbelow
  | append_singleton below name ih =>
    have hparent := h.at?_dropLast hat
    rw [← List.append_assoc, List.dropLast_concat] at hparent
    by_cases hnil : below = []
    · rwa [hnil, List.append_nil] at hparent
    · exact ih hnil hparent

/-- Nothing stands below a name that is free or stands for a file. -/
theorem WellFormed.at?_below (h : tree.WellFormed)
    (hwritable : isWritable (tree.at? location) = true)
    {below : Location} (hbelow : below ≠ []) : tree.at? (location ++ below) = none := by
  cases hat : tree.at? (location ++ below) with
  | none => rfl
  | some entry =>
    rw [h.at?_above hbelow hat] at hwritable
    cases hwritable

theorem WellFormed.at?_base (h : tree.WellFormed) (path : Path) :
    tree.at? (tree.base path) = some .directory := by
  rw [base]
  split
  · rfl
  · exact h.workingDirectory

/-- What a path leads to is an entry. -/
theorem WellFormed.at?_of_entry? (h : tree.WellFormed) {path : Path}
    (hentry : tree.entry? path = .ok (location, entry)) : tree.at? location = some entry :=
  (resolve_eq_ok_iff.mp (entry?_eq_ok_iff.mp hentry)).2.at?_present (fun _ => h.at?_dropLast)
    (h.at?_base path) rfl

/-! ## Listings -/

theorem childOf?_eq_some_iff {directory : Location} {item : Location × Entry} {name : Name} :
    childOf? directory item = some (name, entry) ↔ item = (directory ++ [name], entry) := by
  obtain ⟨location, entry'⟩ := item
  rw [childOf?]
  constructor
  · intro h
    cases hlast : location.getLast? with
    | none => simp [hlast] at h
    | some last =>
      obtain ⟨init, rfl⟩ := List.getLast?_eq_some_iff.mp hlast
      simp only [hlast, List.dropLast_concat] at h
      split at h
      next hinit =>
        cases h
        rw [eq_of_beq hinit]
      · cases h
  · intro h
    cases h
    simp

theorem list_eq_ok_iff {path : Path} {entries : List (Name × Entry)} :
    tree.list path = .ok entries ↔
      ∃ directory, tree.entry? path = .ok (directory, .directory) ∧
        entries = tree.childrenOf directory := by
  rw [FileTree.list]
  cases tree.entry? path with
  | error cause => simp [bind, Except.bind]
  | ok found =>
    obtain ⟨directory, entry⟩ := found
    cases entry <;>
      simp [bind, Except.bind, pure, Except.pure, throw, throwThe, MonadExceptOf.throw, eq_comm]

theorem mem_childrenOf_iff {directory : Location} {name : Name} :
    (name, entry) ∈ tree.childrenOf directory ↔ (directory ++ [name], entry) ∈ tree.entries := by
  simp only [childrenOf, List.mem_filterMap, childOf?_eq_some_iff, exists_eq_right]

/-- A directory lists what stands under a name in it. -/
theorem mem_childrenOf_of_at? {directory : Location} {name : Name}
    (hat : tree.at? (directory ++ [name]) = some entry) :
    (name, entry) ∈ tree.childrenOf directory := by
  rw [at?_of_ne_nil (List.concat_ne_nil _ _)] at hat
  obtain ⟨before, after, heq, -⟩ := List.lookup_eq_some_iff.mp hat
  exact mem_childrenOf_iff.mpr (by simp [heq])

theorem WellFormed.mem_names_iff (h : tree.WellFormed) {directory : Location} {name : Name} :
    name ∈ (tree.childrenOf directory).map Prod.fst ↔
      (tree.at? (directory ++ [name])).isSome = true := by
  rw [Option.isSome_iff_exists, List.mem_map]
  simp only [childrenOf, List.mem_filterMap, h.at?_eq_some_iff (List.concat_ne_nil name directory)]
  constructor
  · rintro ⟨⟨name, entry⟩, ⟨item, hitem, hchild⟩, rfl⟩
    exact ⟨entry, childOf?_eq_some_iff.mp hchild ▸ hitem⟩
  · intro ⟨entry, hmem⟩
    exact ⟨(name, entry), ⟨_, hmem, childOf?_eq_some_iff.mpr rfl⟩, rfl⟩

/-- Where every location stands once, a directory lists each name once. -/
theorem nodup_names (h : (tree.entries.map Prod.fst).Nodup) (directory : Location) :
    ((tree.childrenOf directory).map Prod.fst).Nodup := by
  have hmap : ((tree.childrenOf directory).map Prod.fst).map (directory ++ [·]) =
      (tree.childrenOf directory).map fun child => directory ++ [child.1] :=
    List.map_map
  have hsublist : ((tree.childrenOf directory).map fun child => directory ++ [child.1]).Sublist
      (tree.entries.map Prod.fst) := by
    rw [childrenOf]
    induction tree.entries with
    | nil => exact List.Sublist.refl []
    | cons item entries ih =>
      cases hchild : childOf? directory item with
      | none =>
        rw [List.filterMap_cons_none hchild]
        exact ih.cons _
      | some child =>
        rw [List.filterMap_cons_some hchild, List.map_cons, List.map_cons,
          childOf?_eq_some_iff.mp hchild]
        exact ih.cons_cons _
  exact List.Nodup.of_map (directory ++ [·]) (hmap ▸ hsublist.nodup h)

theorem WellFormed.nodup_names (h : tree.WellFormed) (directory : Location) :
    ((tree.childrenOf directory).map Prod.fst).Nodup :=
  FileTree.nodup_names h.nodup directory

/-! ## Changes -/

theorem lookup_map_of_key {α β : Type} [BEq α] [LawfulBEq α] (g : α → β → β) (l : List (α × β))
    (a : α) : (l.map fun item => (item.1, g item.1 item.2)).lookup a = (l.lookup a).map (g a) := by
  induction l with
  | nil => rfl
  | cons item l ih =>
    obtain ⟨key, value⟩ := item
    rw [List.map_cons, List.lookup_cons, List.lookup_cons, ih]
    by_cases hkey : a = key
    · simp [hkey]
    · rw [beq_false_of_ne hkey]

theorem at?_put (hlocation : location ≠ []) (entry : Entry) (other : Location) :
    (tree.put location entry).at? other =
      if other = location then some entry else tree.at? other := by
  by_cases hother : other = []
  · rw [hother, if_neg (Ne.symm hlocation)]
    rfl
  rw [at?_of_ne_nil hother, at?_of_ne_nil hother, put]
  cases hold : tree.entries.lookup location with
  | some old =>
    have hreplace : (fun item : Location × Entry =>
        if item.1 == location then (location, entry) else item) =
        fun item => (item.1, if item.1 = location then entry else item.2) := by
      funext item
      by_cases hitem : item.1 = location
      · simp [hitem]
      · simp [hitem]
    simp only [Option.isSome_some, if_true]
    rw [hreplace, lookup_map_of_key fun key value => if key = location then entry else value]
    by_cases heq : other = location
    · simp [heq, hold]
    · simp [heq]
  | none =>
    simp only [Option.isSome_none, Bool.false_eq_true, if_false]
    rw [List.lookup_append]
    by_cases heq : other = location
    · simp [heq, hold]
    · simp [heq, List.lookup_cons, beq_false_of_ne heq]

@[simp] theorem workingDirectory_put (tree : FileTree) (location : Location) (entry : Entry) :
    (tree.put location entry).workingDirectory = tree.workingDirectory := by
  rw [put]
  split <;> rfl

/-- A directory lists what is put under a free name in it behind all else. -/
theorem childrenOf_put {directory : Location} {name : Name}
    (hat : tree.at? (directory ++ [name]) = none) (entry : Entry) :
    (tree.put (directory ++ [name]) entry).childrenOf directory =
      tree.childrenOf directory ++ [(name, entry)] := by
  have hlookup : tree.entries.lookup (directory ++ [name]) = none := by
    rw [← at?_of_ne_nil (List.concat_ne_nil _ _)]
    exact hat
  have hchild : childOf? directory (directory ++ [name], entry) = some (name, entry) :=
    childOf?_eq_some_iff.mpr rfl
  rw [put, hlookup, if_neg (by simp), childrenOf, List.filterMap_append,
    List.filterMap_cons_some hchild]
  rfl

theorem map_fst_put (tree : FileTree) (location : Location) (entry : Entry) :
    (tree.put location entry).entries.map Prod.fst =
      if (tree.entries.lookup location).isSome then tree.entries.map Prod.fst
      else tree.entries.map Prod.fst ++ [location] := by
  rw [put]
  split
  · rw [List.map_map]
    refine List.map_congr_left fun item _ => ?_
    simp only [Function.comp_apply]
    split
    next hitem => exact (eq_of_beq hitem).symm
    · rfl
  · simp

theorem nodup_put (h : (tree.entries.map Prod.fst).Nodup) (location : Location) (entry : Entry) :
    ((tree.put location entry).entries.map Prod.fst).Nodup := by
  rw [map_fst_put]
  split
  · exact h
  next hnone =>
    rw [← List.concat_eq_append]
    refine h.concat fun hmem => ?_
    obtain ⟨⟨_, old⟩, hold, rfl⟩ := List.mem_map.mp hmem
    exact hnone (by rw [(lookup_eq_some_iff_mem h).mpr hold]; rfl)

theorem mem_put {item : Location × Entry} (h : item ∈ (tree.put location entry).entries) :
    item = (location, entry) ∨ item ∈ tree.entries := by
  rw [put] at h
  split at h
  · obtain ⟨old, hold, rfl⟩ := List.mem_map.mp h
    split
    · exact .inl rfl
    · exact .inr hold
  · rw [List.mem_append, List.mem_singleton] at h
    exact h.symm

/-- **An entry may be put under a name in a directory that is free or stands for a file.** -/
theorem WellFormed.put (h : tree.WellFormed) (hlocation : location ≠ [])
    (hparent : tree.at? location.dropLast = some .directory)
    (hwritable : isWritable (tree.at? location) = true) (entry : Entry) :
    (tree.put location entry).WellFormed := by
  have hdirectory : ∀ {other : Location}, tree.at? other = some .directory →
      (tree.put location entry).at? other = some .directory := by
    intro other hat
    rw [at?_put hlocation, if_neg, hat]
    rintro rfl
    rw [hat] at hwritable
    cases hwritable
  refine ⟨?_, fun item hitem => ?_, fun item hitem => ?_, ?_⟩
  · exact nodup_put h.nodup location entry
  · obtain rfl | hold := mem_put hitem
    · exact hlocation
    · exact h.nonempty item hold
  · obtain rfl | hold := mem_put hitem
    · exact hdirectory hparent
    · exact hdirectory (h.parent item hold)
  · rw [workingDirectory_put]
    exact hdirectory h.workingDirectory

theorem lookup_filter_of_key {α β : Type} [BEq α] [LawfulBEq α] (p : α → Bool) (l : List (α × β))
    (a : α) : (l.filter fun item => p item.1).lookup a = if p a then l.lookup a else none := by
  induction l with
  | nil => simp
  | cons item l ih =>
    obtain ⟨key, value⟩ := item
    by_cases hkey : a = key
    · subst hkey
      cases hp : p a with
      | true => simp [hp]
      | false => simpa [hp] using ih
    · cases hp : p key with
      | true => simp [hp, List.lookup_cons, beq_false_of_ne hkey, ih]
      | false => simp [hp, List.lookup_cons, beq_false_of_ne hkey, ih]

theorem at?_remove (hlocation : location ≠ []) (other : Location) :
    (tree.remove location).at? other = if location <+: other then none else tree.at? other := by
  by_cases hother : other = []
  · rw [hother, if_neg (by simpa using hlocation)]
    rfl
  rw [at?_of_ne_nil hother, at?_of_ne_nil hother, remove]
  rw [lookup_filter_of_key fun key => !location.isPrefixOf key]
  by_cases hbelow : location <+: other
  · rw [List.isPrefixOf_iff_prefix.mpr hbelow, if_pos hbelow]
    rfl
  · have hfalse : location.isPrefixOf other = false := by
      rw [Bool.eq_false_iff, ne_eq, List.isPrefixOf_iff_prefix]
      exact hbelow
    rw [hfalse, if_neg hbelow]
    rfl

theorem nodup_remove (h : (tree.entries.map Prod.fst).Nodup) (location : Location) :
    ((tree.remove location).entries.map Prod.fst).Nodup :=
  (List.filter_sublist.map Prod.fst).nodup h

/-- **A tree keeps its shape without a directory that the working directory is not in.** -/
theorem WellFormed.remove (h : tree.WellFormed) (hlocation : location ≠ [])
    (houtside : ¬ location <+: tree.workingDirectory) : (tree.remove location).WellFormed := by
  have hkept : ∀ item ∈ (tree.remove location).entries,
      item ∈ tree.entries ∧ ¬ location <+: item.1 := by
    intro item hitem
    obtain ⟨hmem, hfilter⟩ := List.mem_filter.mp hitem
    refine ⟨hmem, fun hbelow => ?_⟩
    rw [List.isPrefixOf_iff_prefix.mpr hbelow] at hfilter
    cases hfilter
  refine ⟨?_, fun item hitem => h.nonempty item (hkept item hitem).1, fun item hitem => ?_, ?_⟩
  · exact nodup_remove h.nodup location
  · obtain ⟨hmem, houtside⟩ := hkept item hitem
    rw [at?_remove hlocation, if_neg fun hbelow => houtside ?_, h.parent item hmem]
    exact hbelow.trans (List.dropLast_prefix item.1)
  · rw [at?_remove hlocation]
    exact (if_neg houtside).trans h.workingDirectory

end FunctionSearch.FileTree
