import FunctionSearch.Proofs.Files.Shape
import Mathlib.Data.List.Perm.Subperm

/-!
# Trees that files are written into

`Grows` relates a tree to one into which files were written, in spots of the first that were free or
stood for files. Whatever a path led to in the first tree, other than such a spot, it leads to in
the second (`Grows.resolve`), and a directory lists the names of the spots besides those it listed
before (`Grows.mem_names_iff`).
-/

namespace FunctionSearch.FileTree

/-- A tree in which files were written into some spots of another one. -/
structure Grows (tree : FileTree) (spot : Location → Prop) (grown : FileTree) : Prop where
  wellFormed : grown.WellFormed
  workingDirectory : grown.workingDirectory = tree.workingDirectory
  elsewhere : ∀ location, ¬ spot location → grown.at? location = tree.at? location
  written : ∀ location, spot location →
    ∃ content mode, grown.at? location = some (.file content mode)

variable {tree grown : FileTree} {spot : Location → Prop}

/-- Nothing is written into a tree yet. -/
theorem WellFormed.grows (h : tree.WellFormed) : Grows tree (fun _ => False) tree where
  wellFormed := h
  workingDirectory := rfl
  elsewhere := fun _ _ => rfl
  written := fun _ hspot => hspot.elim

namespace Grows

theorem isSome_of_isSome (h : Grows tree spot grown) {location : Location}
    (hat : (tree.at? location).isSome = true) : (grown.at? location).isSome = true := by
  by_cases hmem : spot location
  · obtain ⟨content, mode, hfile⟩ := h.written location hmem
    rw [hfile]
    rfl
  · rwa [h.elsewhere location hmem]

/-- **What a path leads to stays**, unless it is a spot. -/
theorem resolve (h : Grows tree spot grown) (hspot : Writable tree spot) {aim : Aim} {path : Path}
    {place : Place} (hresolve : tree.resolve aim path = .ok place)
    (hplace : ¬ spot place.location) : grown.resolve aim path = .ok place :=
  resolve_transfer h.workingDirectory h.elsewhere hspot hresolve hplace

theorem entry? (h : Grows tree spot grown) (hspot : Writable tree spot) {path : Path}
    {location : Location} {entry : Entry} (hentry : tree.entry? path = .ok (location, entry))
    (hplace : ¬ spot location) : grown.entry? path = .ok (location, entry) :=
  entry?_transfer h.workingDirectory h.elsewhere hspot hentry hplace

theorem read (h : Grows tree spot grown) (hspot : Writable tree spot) {path : Path}
    {location : Location} {content : Bytes} {executable : Bool}
    (hentry : tree.entry? path = .ok (location, .file content ⟨true, executable⟩))
    (hplace : ¬ spot location) : grown.read path = .ok content ∧ grown.isFile path = true := by
  have hgrown := h.entry? hspot hentry hplace
  exact ⟨read_of_file hgrown, by rw [isFile, hgrown]⟩

/-- **A directory lists the names of the spots in it besides those that it listed before.** -/
theorem mem_names_iff (h : Grows tree spot grown) {directory : Location} {name : Name} :
    name ∈ (grown.childrenOf directory).map Prod.fst ↔
      spot (directory ++ [name]) ∨ (tree.at? (directory ++ [name])).isSome = true := by
  rw [h.wellFormed.mem_names_iff]
  by_cases hmem : spot (directory ++ [name])
  · obtain ⟨content, mode, hfile⟩ := h.written _ hmem
    simp [hmem, hfile]
  · rw [h.elsewhere _ hmem]
    simp [hmem]

theorem congr {spot' : Location → Prop} (h : Grows tree spot grown)
    (hspot : ∀ location, spot location ↔ spot' location) : Grows tree spot' grown where
  wellFormed := h.wellFormed
  workingDirectory := h.workingDirectory
  elsewhere := fun location hnot => h.elsewhere location fun hmem => hnot ((hspot location).mp hmem)
  written := fun location hmem => h.written location ((hspot location).mpr hmem)

/-- A tree does not have fewer entries than the one that it grew from. -/
theorem length_le (h : Grows tree spot grown) (hwellFormed : tree.WellFormed) :
    tree.entries.length ≤ grown.entries.length := by
  have hsubset : tree.entries.map Prod.fst ⊆ grown.entries.map Prod.fst := by
    intro location hmem
    obtain ⟨⟨_, entry⟩, hitem, rfl⟩ := List.mem_map.mp hmem
    have hne := hwellFormed.nonempty _ hitem
    have hat := (hwellFormed.at?_eq_some_iff hne).mpr hitem
    obtain ⟨other, hother⟩ :=
      Option.isSome_iff_exists.mp (h.isSome_of_isSome (by rw [hat]; rfl))
    exact List.mem_map.mpr ⟨_, (h.wellFormed.at?_eq_some_iff hne).mp hother, rfl⟩
  have hlength := (List.subperm_of_subset hwellFormed.nodup hsubset).length_le
  rwa [List.length_map, List.length_map] at hlength

/-- A tree into which nothing was written has the entries of the one it grew from, in some order. -/
theorem reorders (h : Grows tree (fun _ => False) grown) (hwellFormed : tree.WellFormed) :
    Reorders tree grown := by
  refine ⟨?_, hwellFormed.nodup, h.workingDirectory.symm⟩
  refine (List.perm_ext_iff_of_nodup hwellFormed.nodup.of_map h.wellFormed.nodup.of_map).mpr ?_
  rintro ⟨location, entry⟩
  by_cases hne : location = []
  · subst hne
    exact ⟨fun hmem => absurd rfl (hwellFormed.nonempty _ hmem),
      fun hmem => absurd rfl (h.wellFormed.nonempty _ hmem)⟩
  · rw [← hwellFormed.at?_eq_some_iff hne, ← h.wellFormed.at?_eq_some_iff hne,
      h.elsewhere location id]

end Grows

end FunctionSearch.FileTree
