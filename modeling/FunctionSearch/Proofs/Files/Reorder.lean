import FunctionSearch.Files.Tree
import Mathlib.Data.List.Basic
import Mathlib.Data.List.Perm.Basic

/-!
# Trees with their entries in another order

The order of the entries of a tree is the order in which its directories list them, and nothing else
depends on it. If two trees hold the same entries, each at a place of its own, then every path leads
to the same place in both (`Reorders.follow_eq`), files have the same content
(`Reorders.read_eq`), and a directory lists the same entries in some order (`Reorders.list`).
-/

namespace FunctionSearch.FileTree

/-- A lookup finds the pairs of a list if no key stands twice. -/
theorem lookup_eq_some_iff_mem {α β : Type} [BEq α] [LawfulBEq α] {l : List (α × β)}
    (h : (l.map Prod.fst).Nodup) {a : α} {b : β} : l.lookup a = some b ↔ (a, b) ∈ l := by
  induction l with
  | nil => simp
  | cons item l ih =>
    obtain ⟨key, value⟩ := item
    rw [List.map_cons, List.nodup_cons] at h
    rw [List.lookup_cons, List.mem_cons, Prod.mk.injEq, ← ih h.2]
    by_cases hkey : a = key
    · subst hkey
      have hnone : l.lookup a ≠ some b := fun hsome =>
        h.1 (List.mem_map.mpr ⟨(a, b), (ih h.2).mp hsome, rfl⟩)
      simp [hnone, eq_comm]
    · simp [hkey, beq_false_of_ne hkey]

/-- The order of pairs does not matter to a lookup if no key stands twice. -/
theorem lookup_eq_of_perm {α β : Type} [BEq α] [LawfulBEq α] {l l' : List (α × β)}
    (h : l.Perm l') (hnodup : (l.map Prod.fst).Nodup) (a : α) : l.lookup a = l'.lookup a := by
  have hnodup' : (l'.map Prod.fst).Nodup := (h.map Prod.fst).nodup_iff.mp hnodup
  refine Option.ext fun b => ?_
  rw [lookup_eq_some_iff_mem hnodup, lookup_eq_some_iff_mem hnodup', h.mem_iff]

/-- Two trees with the same entries, each at a place of its own, in any two orders. -/
structure Reorders (tree tree' : FileTree) : Prop where
  perm : tree.entries.Perm tree'.entries
  nodup : (tree.entries.map Prod.fst).Nodup
  workingDirectory : tree.workingDirectory = tree'.workingDirectory

namespace Reorders

variable {tree tree' : FileTree} (h : Reorders tree tree')

include h

theorem at?_eq (location : Location) : tree.at? location = tree'.at? location := by
  rw [at?, at?, lookup_eq_of_perm h.perm h.nodup]

theorem walkParts_eq (aim : Aim) {again again' : Location → List Name → Except IoError Place}
    (hagain : again = again') (here : Location) (parts : List Name) :
    tree.walkParts aim again here parts = tree'.walkParts aim again' here parts := by
  subst hagain
  induction parts generalizing here with
  | nil => rfl
  | cons part rest ih => simp only [walkParts, h.at?_eq, ih]

theorem walk_eq (aim : Aim) (links : Nat) : tree.walk aim links = tree'.walk aim links := by
  funext here parts
  induction links generalizing here parts with
  | zero => exact h.walkParts_eq aim rfl here parts
  | succ links ih => exact h.walkParts_eq aim (funext₂ ih) here parts

theorem follow_eq (aim : Aim) (path : Path) : tree.follow aim path = tree'.follow aim path := by
  rw [follow, follow, h.walk_eq, h.workingDirectory]

theorem entry?_eq (path : Path) : tree.entry? path = tree'.entry? path := by
  unfold entry? resolve
  rw [h.follow_eq]

theorem read_eq (path : Path) : tree.read path = tree'.read path := by
  rw [read, read, h.entry?_eq]

theorem childrenOf_perm (directory : Location) :
    (tree.childrenOf directory).Perm (tree'.childrenOf directory) :=
  h.perm.filterMap _

/-- A directory lists the same entries, or cannot be listed for the same reason. -/
theorem list (path : Path) :
    (∃ cause, tree.list path = .error cause ∧ tree'.list path = .error cause) ∨
      ∃ entries entries', tree.list path = .ok entries ∧ tree'.list path = .ok entries' ∧
        entries.Perm entries' := by
  simp only [FileTree.list, ← h.entry?_eq, bind, Except.bind]
  cases tree.entry? path with
  | error cause => exact .inl ⟨cause, rfl, rfl⟩
  | ok place =>
    obtain ⟨location, entry⟩ := place
    cases entry with
    | directory => exact .inr ⟨_, _, rfl, rfl, h.childrenOf_perm location⟩
    | file _ _ => exact .inl ⟨_, rfl, rfl⟩
    | link _ => exact .inl ⟨_, rfl, rfl⟩

end Reorders

end FunctionSearch.FileTree
