/-!
# Searching

Occurrences of one list in another, found from the left and never overlapping.

* `splitFirst?` and `splitLast?`: what stands before and after the first or the last occurrence;
* `splitAll`: the pieces between all occurrences;
* `deleteAll`: those pieces put together, so every occurrence is gone;
* `occurrences`: their number;
* `replaceFirst`: another list in the place of the first.

Everything is about lists of any type, so it serves characters and bytes alike.
-/

namespace FunctionSearch.Text

variable {α : Type} [BEq α]

/-- Look for `pattern` from here on; `before` holds, in reverse, what was passed over. -/
def splitFrom? (pattern : List α) (before : List α) : List α → Option (List α × List α)
  | [] => if pattern.isEmpty then some (before.reverse, []) else none
  | a :: s =>
    match pattern.isPrefixOf? (a :: s) with
    | some after => some (before.reverse, after)
    | none => splitFrom? pattern (a :: before) s

/-- What stands before and after the first occurrence of `pattern`. -/
def splitFirst? (pattern s : List α) : Option (List α × List α) :=
  splitFrom? pattern [] s

/-- What stands before and after the last occurrence of `pattern`. -/
def splitLast? (pattern s : List α) : Option (List α × List α) :=
  (splitFirst? pattern.reverse s.reverse).map fun (after, before) => (before.reverse, after.reverse)

theorem length_of_isPrefixOf? {pattern s after : List α}
    (h : pattern.isPrefixOf? s = some after) : s.length = pattern.length + after.length := by
  induction pattern generalizing s with
  | nil =>
    change some s = some after at h
    simp [Option.some.inj h]
  | cons a p ih =>
    cases s with
    | nil => exact nomatch (show (none : Option (List α)) = some after from h)
    | cons b t =>
      change (if a == b then p.isPrefixOf? t else none) = some after at h
      split at h
      · have := ih h; simp only [List.length_cons]; omega
      · exact nomatch h

theorem length_of_splitFrom? {pattern before s p q : List α}
    (h : splitFrom? pattern before s = some (p, q)) :
    before.length + s.length = p.length + pattern.length + q.length := by
  induction s generalizing before with
  | nil =>
    simp only [splitFrom?] at h
    split at h
    · next he =>
      simp only [Option.some.injEq, Prod.mk.injEq] at h
      obtain ⟨rfl, rfl⟩ := h
      simp [List.isEmpty_iff.mp he]
    · simp at h
  | cons a s ih =>
    simp only [splitFrom?] at h
    split at h
    · next after he =>
      simp only [Option.some.injEq, Prod.mk.injEq] at h
      obtain ⟨rfl, rfl⟩ := h
      have := length_of_isPrefixOf? he
      simp only [List.length_reverse]; omega
    · have := ih h; simp only [List.length_cons] at this ⊢; omega

/-- A split accounts for every element. -/
theorem length_of_splitFirst? {pattern s p q : List α} (h : splitFirst? pattern s = some (p, q)) :
    s.length = p.length + pattern.length + q.length := by
  simpa using length_of_splitFrom? h

/-- What follows an occurrence of a pattern that is not empty is shorter than the whole. -/
theorem length_lt_of_splitFirst? {pattern s p q : List α} (h : splitFirst? pattern s = some (p, q))
    (hp : pattern ≠ []) : q.length < s.length := by
  have := length_of_splitFirst? h
  have := List.length_pos_iff.mpr hp
  omega

/-- The pieces of `s` between the occurrences of `pattern`, after the pieces found before, which
are in reverse. -/
def splitAllFrom (pattern : List α) (pieces : List (List α)) (s : List α) : List (List α) :=
  match h : splitFirst? pattern s with
  | none => (s :: pieces).reverse
  | some (piece, rest) =>
    if hp : pattern = [] then (s :: pieces).reverse
    else
      have := length_lt_of_splitFirst? h hp
      splitAllFrom pattern (piece :: pieces) rest
termination_by s.length

/-- The pieces between the occurrences of `pattern`, from left to right: one more than there are
occurrences. The empty pattern splits nothing. -/
def splitAll (pattern s : List α) : List (List α) :=
  splitAllFrom pattern [] s

/-- A list less every occurrence of `pattern`. -/
def deleteAll (pattern s : List α) : List α :=
  (splitAll pattern s).flatten

/-- Count on from `n` the occurrences of `pattern` in `s`. -/
def occurrencesFrom (pattern : List α) (n : Nat) (s : List α) : Nat :=
  match h : splitFirst? pattern s with
  | none => n
  | some (_, rest) =>
    if hp : pattern = [] then n
    else
      have := length_lt_of_splitFirst? h hp
      occurrencesFrom pattern (n + 1) rest
termination_by s.length

/-- The number of occurrences of `pattern`, found from left to right without overlap. -/
def occurrences (pattern s : List α) : Nat :=
  occurrencesFrom pattern 0 s

/-- A list with `replacement` in the place of the first occurrence of `pattern`. -/
def replaceFirst (pattern replacement s : List α) : List α :=
  match splitFirst? pattern s with
  | none => s
  | some (before, after) => before ++ replacement ++ after

/-- Whether `pattern` occurs. -/
def contains (pattern s : List α) : Bool :=
  (splitFirst? pattern s).isSome

end FunctionSearch.Text
