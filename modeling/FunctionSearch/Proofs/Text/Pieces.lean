import FunctionSearch.Text.Blank
import Mathlib.Data.List.Basic

/-!
# Pieces between separators

What a text is split into at every element that satisfies a predicate is what the library splits a
list into (`splitWhere_eq_splitOnP`), and no piece holds such an element
(`eq_false_of_mem_splitWhere`).
-/

namespace FunctionSearch.Text

variable {α : Type} {p : α → Bool}

theorem splitWhere_eq_splitOnP (s : List α) : splitWhere p s = s.splitOnP p := by
  induction s with
  | nil => rfl
  | cons a s ih =>
    obtain ⟨piece, pieces, hpieces⟩ := List.exists_cons_of_ne_nil (List.splitOnP_ne_nil p s)
    rw [splitWhere_cons, List.splitOnP_cons_eq_if_modifyHead, ih, hpieces]
    rfl

/-- No piece holds a separator. -/
theorem eq_false_of_mem_splitWhere {s piece : List α} {a : α}
    (hpiece : piece ∈ splitWhere p s) (ha : a ∈ piece) : p a = false := by
  induction s generalizing piece with
  | nil =>
    obtain rfl := List.mem_singleton.mp hpiece
    cases ha
  | cons b s ih =>
    rw [splitWhere_cons] at hpiece
    split at hpiece
    · obtain rfl | hpiece := List.mem_cons.mp hpiece
      · cases ha
      · exact ih hpiece ha
    next hb =>
      cases hsplit : splitWhere p s with
      | nil =>
        rw [hsplit, extendFirst, List.mem_singleton] at hpiece
        rw [hpiece, List.mem_singleton] at ha
        exact ha ▸ eq_false_of_ne_true hb
      | cons first pieces =>
        rw [hsplit] at ih
        rw [hsplit, extendFirst, List.mem_cons] at hpiece
        obtain rfl | hpiece := hpiece
        · obtain rfl | ha := List.mem_cons.mp ha
          · exact eq_false_of_ne_true hb
          · exact ih List.mem_cons_self ha
        · exact ih (List.mem_cons_of_mem first hpiece) ha

end FunctionSearch.Text
