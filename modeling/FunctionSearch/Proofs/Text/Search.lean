import FunctionSearch.Text.Search
import Mathlib.Data.List.Infix

/-!
# First and last occurrences

What a search finds, said without the search. `splitFirst?` finds the occurrence with the least
text in front of it (`splitFirst?_eq_some_iff`) and `splitLast?` the one with the most
(`splitLast?_eq_some_iff`); either finds nothing exactly when there is no occurrence
(`splitFirst?_eq_none_iff`).

Text that follows the first occurrence of a pattern does not move it (`splitFirst?_append`), and an
occurrence is the only one if none begins in front of it and none ends behind it
(`eq_and_eq_of_not_infix`).
-/

namespace FunctionSearch.Text

variable {α : Type}

/-- Whether all characters of a text have a property is decided by going through the text, and not
through all characters that there are. -/
instance (priority := high) decidableForallMem (p : Char → Prop) [DecidablePred p]
    (s : List Char) : Decidable (∀ c ∈ s, p c) :=
  List.decidableBAll p s

/-- `p` and `q` stand before and after an occurrence of `pattern` in `s`, and no other occurrence
has less in front of it. -/
structure IsFirstSplit (pattern s p q : List α) : Prop where
  eq : s = p ++ pattern ++ q
  le : ∀ p' q', s = p' ++ pattern ++ q' → p.length ≤ p'.length

/-- `p` and `q` stand before and after an occurrence of `pattern` in `s`, and no other occurrence
has more in front of it. -/
structure IsLastSplit (pattern s p q : List α) : Prop where
  eq : s = p ++ pattern ++ q
  ge : ∀ p' q', s = p' ++ pattern ++ q' → p'.length ≤ p.length

theorem IsFirstSplit.unique {pattern s p q p' q' : List α} (h : IsFirstSplit pattern s p q)
    (h' : IsFirstSplit pattern s p' q') : p = p' ∧ q = q' := by
  have hlen : p.length = p'.length := le_antisymm (h.le _ _ h'.eq) (h'.le _ _ h.eq)
  have heq : p ++ (pattern ++ q) = p' ++ (pattern ++ q') := by
    simpa only [List.append_assoc] using h.eq.symm.trans h'.eq
  obtain ⟨hp, hq⟩ := List.append_inj heq hlen
  exact ⟨hp, List.append_cancel_left hq⟩

theorem IsFirstSplit.isInfix {pattern s p q : List α} (h : IsFirstSplit pattern s p q) :
    pattern <:+: s :=
  ⟨p, q, h.eq.symm⟩

theorem isFirstSplit_append (pattern s : List α) : IsFirstSplit pattern (pattern ++ s) [] s :=
  ⟨rfl, fun _ _ _ => Nat.zero_le _⟩

/-- No occurrence stands in front of the first one. -/
theorem IsFirstSplit.not_isInfix {pattern s p q : List α} (h : IsFirstSplit pattern s p q)
    (hpattern : pattern ≠ []) : ¬ pattern <:+: p := by
  rintro ⟨front, behind, rfl⟩
  have hle := h.le front (behind ++ pattern ++ q) (by simp [h.eq])
  have hpos := List.length_pos_iff.mpr hpattern
  simp only [List.length_append] at hle
  omega

/-- Reversing exchanges the first and the last occurrence. -/
theorem IsFirstSplit.reverse {pattern s p q : List α}
    (h : IsFirstSplit pattern.reverse s.reverse q p) :
    IsLastSplit pattern s p.reverse q.reverse := by
  refine ⟨?_, fun p' q' h' => ?_⟩
  · have := congrArg List.reverse h.eq
    simpa using this
  · have hle := h.le q'.reverse p'.reverse (by simp [h'])
    have hlen := congrArg List.length (h.eq.symm.trans (congrArg List.reverse h'))
    simp only [List.length_append, List.length_reverse] at hle hlen ⊢
    omega

theorem IsLastSplit.reverse {pattern s p q : List α} (h : IsLastSplit pattern s p q) :
    IsFirstSplit pattern.reverse s.reverse q.reverse p.reverse := by
  refine ⟨?_, fun p' q' h' => ?_⟩
  · simp [h.eq]
  · have hs := congrArg List.reverse h'
    simp only [List.reverse_reverse, List.reverse_append, ← List.append_assoc] at hs
    have hge := h.ge q'.reverse p'.reverse hs
    have hlen := congrArg List.length (h.eq.symm.trans hs)
    simp only [List.length_append, List.length_reverse] at hge hlen ⊢
    omega

/-- An occurrence is the last one if the last element of the pattern is not met behind it. -/
theorem IsLastSplit.of_notMem {pattern p q : List α} {a : α} (ha : pattern.getLast? = some a)
    (hq : a ∉ q) : IsLastSplit pattern (p ++ pattern ++ q) p q := by
  refine ⟨rfl, fun p' q' h => ?_⟩
  obtain ⟨init, rfl⟩ := List.getLast?_eq_some_iff.mp ha
  rcases List.append_eq_append_iff.mp h with ⟨t, ht, rfl⟩ | ⟨t, ht, -⟩
  · -- the occurrence at `p'` would end in `t`, which lies in `q`
    rcases List.eq_nil_or_concat t with rfl | ⟨t, b, rfl⟩
    · have := congrArg List.length ht
      simp only [List.length_append, List.length_nil] at this
      omega
    · simp only [List.concat_eq_append, ← List.append_assoc] at ht
      have hb : [a] = [b] := (List.append_inj' ht rfl).2
      exact absurd (by simp [List.singleton_inj.mp hb]) hq
  · have := congrArg List.length ht
    simp only [List.length_append] at this
    omega

/-- An occurrence is the only one if none begins in front of it and none ends behind it. -/
theorem eq_and_eq_of_not_infix {pattern p q p' q' : List α}
    (hbefore : ¬ pattern <:+: p ++ pattern.dropLast) (hbehind : ¬ pattern <:+: pattern.tail ++ q)
    (h : p' ++ pattern ++ q' = p ++ pattern ++ q) : p' = p ∧ q' = q := by
  have hlen := congrArg List.length h
  simp only [List.length_append] at hlen
  rcases lt_trichotomy p'.length p.length with hlt | heq | hgt
  · have hdrop : p ++ pattern.dropLast <+: p' ++ pattern ++ q' := by
      rw [h, List.append_assoc, List.prefix_append_right_inj]
      exact (List.dropLast_prefix pattern).trans (List.prefix_append pattern q)
    have hpre : p' ++ pattern <+: p ++ pattern.dropLast := by
      refine List.prefix_of_prefix_length_le (List.prefix_append _ q') hdrop ?_
      simp only [List.length_append, List.length_dropLast]
      omega
    exact absurd ((List.suffix_append p' pattern).isInfix.trans hpre.isInfix) hbefore
  · obtain ⟨hp, hq⟩ := List.append_inj (by simpa only [List.append_assoc] using h) heq
    exact ⟨hp, List.append_cancel_left hq⟩
  · have htail : pattern.tail ++ q <:+ p' ++ (pattern ++ q') := by
      rw [← List.append_assoc, h, List.append_assoc]
      exact List.suffix_append_of_suffix (List.suffix_append_self_iff.mpr pattern.tail_suffix)
    have hsuf : pattern ++ q' <:+ pattern.tail ++ q := by
      refine List.suffix_of_suffix_length_le (List.suffix_append p' _) htail ?_
      simp only [List.length_append, List.length_tail]
      omega
    exact absurd ((List.prefix_append pattern q').isInfix.trans hsuf.isInfix) hbehind

/-! ## The search -/

variable [BEq α]

/-- What was passed over before a search only stands in front of what it finds. -/
theorem splitFrom?_eq_map (pattern before s : List α) :
    splitFrom? pattern before s =
      (splitFirst? pattern s).map (Prod.map (before.reverse ++ ·) id) := by
  induction s generalizing before with
  | nil => cases pattern <;> simp [splitFirst?, splitFrom?]
  | cons a s ih =>
    simp only [splitFirst?, splitFrom?]
    cases pattern.isPrefixOf? (a :: s) with
    | some after => simp
    | none =>
      simp only [ih (a :: before), ih [a], Option.map_map]
      congr 1
      funext split
      simp [Prod.map]

theorem splitFirst?_nil (pattern : List α) :
    splitFirst? pattern [] = if pattern.isEmpty then some ([], []) else none := rfl

theorem splitFirst?_cons (pattern : List α) (a : α) (s : List α) :
    splitFirst? pattern (a :: s) =
      match pattern.isPrefixOf? (a :: s) with
      | some after => some ([], after)
      | none => (splitFirst? pattern s).map (Prod.map (a :: ·) id) := by
  rw [splitFirst?, splitFrom?]
  cases pattern.isPrefixOf? (a :: s) with
  | some after => rfl
  | none => exact splitFrom?_eq_map pattern [a] s

variable [LawfulBEq α]

theorem isPrefixOf?_eq_some_iff {pattern s after : List α} :
    pattern.isPrefixOf? s = some after ↔ s = pattern ++ after := by
  induction pattern generalizing s with
  | nil => cases s <;> simp [List.isPrefixOf?]
  | cons a pattern ih =>
    cases s with
    | nil => simp [List.isPrefixOf?]
    | cons b s =>
      by_cases hab : a = b
      · simp [List.isPrefixOf?, hab, ih]
      · simp [List.isPrefixOf?, hab, Ne.symm hab]

/-- A search without success passes over the whole text. -/
theorem ne_append_of_splitFirst?_eq_none {pattern s : List α} (h : splitFirst? pattern s = none)
    (p q : List α) : s ≠ p ++ pattern ++ q := by
  induction s generalizing p with
  | nil =>
    intro hs
    obtain ⟨-, rfl, -⟩ : p = [] ∧ pattern = [] ∧ q = [] := by simpa using hs.symm
    simp [splitFirst?_nil] at h
  | cons a s ih =>
    rw [splitFirst?_cons] at h
    cases hp : pattern.isPrefixOf? (a :: s) with
    | some after => simp [hp] at h
    | none =>
      simp only [hp, Option.map_eq_none_iff] at h
      intro hs
      cases p with
      | nil => simp [isPrefixOf?_eq_some_iff.mpr (by simpa using hs)] at hp
      | cons b p =>
        simp only [List.cons_append, List.cons.injEq] at hs
        exact ih h p hs.2

theorem isFirstSplit_of_splitFirst? {pattern s p q : List α}
    (h : splitFirst? pattern s = some (p, q)) : IsFirstSplit pattern s p q := by
  induction s generalizing p q with
  | nil =>
    simp only [splitFirst?_nil, List.isEmpty_iff] at h
    split at h
    · next hp =>
      obtain ⟨rfl, rfl⟩ : [] = p ∧ [] = q := by simpa using h
      exact ⟨by simp [hp], fun _ _ _ => Nat.zero_le _⟩
    · cases h
  | cons a s ih =>
    rw [splitFirst?_cons] at h
    cases hp : pattern.isPrefixOf? (a :: s) with
    | some after =>
      obtain ⟨rfl, rfl⟩ : [] = p ∧ after = q := by simpa [hp] using h
      exact ⟨by simpa using isPrefixOf?_eq_some_iff.mp hp, fun _ _ _ => Nat.zero_le _⟩
    | none =>
      simp only [hp, Option.map_eq_some_iff, Prod.exists] at h
      obtain ⟨p₀, q₀, hfound, rfl, rfl⟩ := h
      have hs := ih hfound
      refine ⟨by simp [hs.eq], fun p' q' h' => ?_⟩
      -- an occurrence at the very start was ruled out by `hp`
      cases p' with
      | nil => simp [isPrefixOf?_eq_some_iff.mpr (by simpa using h')] at hp
      | cons b p' =>
        simp only [List.cons_append, List.cons.injEq] at h'
        exact Nat.succ_le_succ (hs.le p' q' h'.2)

/-- **A search from the left finds the first occurrence.** -/
theorem splitFirst?_eq_some_iff {pattern s p q : List α} :
    splitFirst? pattern s = some (p, q) ↔ IsFirstSplit pattern s p q := by
  refine ⟨isFirstSplit_of_splitFirst?, fun h => ?_⟩
  cases hf : splitFirst? pattern s with
  | none => exact absurd h.eq (ne_append_of_splitFirst?_eq_none hf p q)
  | some found =>
    obtain ⟨rfl, rfl⟩ := (isFirstSplit_of_splitFirst? hf).unique h
    rfl

/-- The first occurrence is the one that is replaced. -/
theorem IsFirstSplit.replaceFirst_eq {pattern s p q : List α} (h : IsFirstSplit pattern s p q)
    (replacement : List α) : replaceFirst pattern replacement s = p ++ replacement ++ q := by
  rw [replaceFirst, splitFirst?_eq_some_iff.mpr h]

/-- **A search from the left fails exactly where there is no occurrence.** -/
theorem splitFirst?_eq_none_iff {pattern s : List α} :
    splitFirst? pattern s = none ↔ ¬ pattern <:+: s := by
  refine ⟨fun h ⟨p, q, hs⟩ => ne_append_of_splitFirst?_eq_none h p q hs.symm, fun h => ?_⟩
  cases hf : splitFirst? pattern s with
  | none => rfl
  | some found => exact absurd ⟨_, _, (isFirstSplit_of_splitFirst? hf).eq.symm⟩ h

/-- **A search from the right finds the last occurrence.** -/
theorem splitLast?_eq_some_iff {pattern s p q : List α} :
    splitLast? pattern s = some (p, q) ↔ IsLastSplit pattern s p q := by
  simp only [splitLast?, Option.map_eq_some_iff, Prod.exists, Prod.mk.injEq]
  constructor
  · rintro ⟨after, before, hf, rfl, rfl⟩
    exact (splitFirst?_eq_some_iff.mp hf).reverse
  · intro h
    exact ⟨q.reverse, p.reverse, splitFirst?_eq_some_iff.mpr h.reverse, by simp, by simp⟩

/-- What follows a text does not move the first occurrence in it. -/
theorem splitFirst?_append {pattern s p q : List α} (h : splitFirst? pattern s = some (p, q))
    (r : List α) : splitFirst? pattern (s ++ r) = some (p, q ++ r) := by
  have hs := splitFirst?_eq_some_iff.mp h
  refine splitFirst?_eq_some_iff.mpr ⟨by simp [hs.eq], fun p' q' h' => ?_⟩
  -- an occurrence further left would end within `s`
  by_contra hlt
  have hle : (p' ++ pattern).length ≤ s.length := by
    have := congrArg List.length hs.eq
    simp only [List.length_append] at this ⊢
    omega
  obtain ⟨t, ht⟩ : p' ++ pattern <+: s :=
    List.prefix_of_prefix_length_le ⟨q', h'.symm⟩ (List.prefix_append s r) hle
  exact hlt (hs.le p' t ht.symm)

end FunctionSearch.Text
