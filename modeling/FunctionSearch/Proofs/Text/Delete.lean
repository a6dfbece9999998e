import FunctionSearch.Proofs.Text.Search

/-!
# Deletion

The pieces of a text between the occurrences of a pattern, and what is left of it without them.

* `splitAll_of_none` and `splitAll_of_some`, `deleteAll_of_none` and `deleteAll_of_some`: the pieces
  and the deletion, one occurrence at a time;
* `isSplit_splitAll`: the pieces are the ones that a search from the left leaves (`IsSplit`);
* `splitFirst?_append_of_none`: a search passes over a text without an occurrence, unless one begins
  in the text and ends behind it (`EndsApart`);
* `deleteAll_append`: a text and what follows it are cleaned apart;
* `getLast?_deleteAll`: what stands at the end of a text stays, unless it ends the pattern.
-/

namespace FunctionSearch.Text

variable {α : Type} {pattern s p q : List α}

/-- The pieces of a text between the occurrences of a pattern, found from left to right: what stands
before the first occurrence, and the pieces of what stands after it. -/
inductive IsSplit (pattern : List α) : List α → List (List α) → Prop
  | whole {s : List α} (hnot : ¬ pattern <:+: s) : IsSplit pattern s [s]
  | cut {s piece rest : List α} {pieces : List (List α)}
    (hfirst : IsFirstSplit pattern s piece rest) (hrest : IsSplit pattern rest pieces) :
    IsSplit pattern s (piece :: pieces)

/-- A text begins with the first of its pieces. -/
theorem prefix_of_isSplit {piece : List α} {pieces : List (List α)}
    (h : IsSplit pattern s (piece :: pieces)) : piece <+: s := by
  cases h with
  | whole => exact List.prefix_refl _
  | cut hfirst => exact ⟨_, by rw [hfirst.eq, List.append_assoc]⟩

/-- No occurrence of `pattern` begins in the text `s` and ends behind it, whatever follows: the last
element of the text stands nowhere in the pattern but at its end. -/
def EndsApart (pattern s : List α) : Prop :=
  ∀ a ∈ s.getLast?, a ∉ pattern.dropLast

theorem EndsApart.of_append (h : EndsApart pattern (p ++ q)) : EndsApart pattern q := by
  intro a ha
  refine h a ?_
  rw [List.getLast?_append, Option.mem_def.mp ha]
  rfl

/-- What occurs behind a text in which it does not occur begins behind it. -/
theorem EndsApart.length_le {r p' q' : List α} (hs : EndsApart pattern s)
    (hnot : ¬ pattern <:+: s) (h : s ++ r = p' ++ pattern ++ q') : s.length ≤ p'.length := by
  by_contra hlt
  rw [List.append_assoc] at h
  obtain ⟨t, rfl, -⟩ | ⟨t, rfl, ht⟩ := List.append_eq_append_iff.mp h
  · simp at hlt
  · -- the occurrence begins with `t`, and `t` ends the text
    obtain ⟨u, rfl, -⟩ | ⟨u, rfl, -⟩ := List.append_eq_append_iff.mp ht
    · exact hnot ⟨p', u, by simp⟩
    · rcases List.eq_nil_or_concat u with rfl | ⟨u, b, rfl⟩
      · exact hnot ⟨p', [], by simp⟩
      · rcases List.eq_nil_or_concat t with rfl | ⟨t, a, rfl⟩
        · simp at hlt
        · refine hs a (by simp) ?_
          simp [List.concat_eq_append, ← List.append_assoc]

variable [BEq α]

/-! ## One occurrence at a time -/

theorem splitAllFrom_eq (pieces : List (List α)) (s : List α) :
    splitAllFrom pattern pieces s = pieces.reverse ++ splitAll pattern s := by
  induction hn : s.length using Nat.strong_induction_on generalizing pieces s with
  | _ n ih =>
    rw [splitAll, splitAllFrom, splitAllFrom]
    split
    · simp
    · next piece rest hfound =>
      split
      · simp
      · next hpattern =>
        have hlength := length_lt_of_splitFirst? hfound hpattern
        rw [ih _ (hn ▸ hlength) _ _ rfl, ih _ (hn ▸ hlength) [piece] _ rfl]
        simp

theorem splitAll_of_none (h : splitFirst? pattern s = none) : splitAll pattern s = [s] := by
  rw [splitAll, splitAllFrom]
  split
  · rfl
  · next hfound => cases h.symm.trans hfound

theorem splitAll_of_some (hpattern : pattern ≠ []) (h : splitFirst? pattern s = some (p, q)) :
    splitAll pattern s = p :: splitAll pattern q := by
  rw [splitAll, splitAllFrom]
  split
  · next hfound => cases h.symm.trans hfound
  · next hfound =>
    obtain ⟨rfl, rfl⟩ := Prod.mk.inj (Option.some.inj (h.symm.trans hfound))
    rw [dif_neg hpattern, splitAllFrom_eq]
    rfl

theorem deleteAll_of_none (h : splitFirst? pattern s = none) : deleteAll pattern s = s := by
  rw [deleteAll, splitAll_of_none h, List.flatten_singleton]

theorem deleteAll_of_some (hpattern : pattern ≠ []) (h : splitFirst? pattern s = some (p, q)) :
    deleteAll pattern s = p ++ deleteAll pattern q := by
  rw [deleteAll, splitAll_of_some hpattern h, List.flatten_cons, deleteAll]

theorem deleteAll_nil : deleteAll pattern [] = [] := by
  cases pattern with
  | nil =>
    rw [deleteAll, splitAll, splitAllFrom]
    rfl
  | cons a pattern => exact deleteAll_of_none rfl

variable [LawfulBEq α]

/-! ## Pieces -/

/-- **The pieces are the ones that a search from the left leaves.** -/
theorem isSplit_splitAll (hpattern : pattern ≠ []) (s : List α) :
    IsSplit pattern s (splitAll pattern s) := by
  induction hn : s.length using Nat.strong_induction_on generalizing s with
  | _ n ih =>
    cases h : splitFirst? pattern s with
    | none =>
      rw [splitAll_of_none h]
      exact .whole (splitFirst?_eq_none_iff.mp h)
    | some split =>
      obtain ⟨p, q⟩ := split
      have hlength := length_lt_of_splitFirst? h hpattern
      rw [splitAll_of_some hpattern h]
      exact .cut (splitFirst?_eq_some_iff.mp h) (ih _ (hn ▸ hlength) q rfl)

/-! ## Texts put together -/

/-- A search passes over a text without an occurrence. -/
theorem splitFirst?_append_of_none (hs : EndsApart pattern s) (h : splitFirst? pattern s = none)
    (r : List α) :
    splitFirst? pattern (s ++ r) = (splitFirst? pattern r).map (Prod.map (s ++ ·) id) := by
  have hnot := splitFirst?_eq_none_iff.mp h
  cases hr : splitFirst? pattern r with
  | none =>
    rw [Option.map_none, splitFirst?_eq_none_iff]
    rintro ⟨p', q', h'⟩
    have hle := hs.length_le hnot h'.symm
    obtain ⟨t, ht⟩ : s <+: p' :=
      List.prefix_of_prefix_length_le (List.prefix_append s r)
        ⟨pattern ++ q', by rw [← List.append_assoc, h']⟩ hle
    refine splitFirst?_eq_none_iff.mp hr ⟨t, q', (List.append_right_inj s).mp ?_⟩
    rw [← h', ← ht, List.append_assoc, List.append_assoc, List.append_assoc]
  | some split =>
    obtain ⟨p, q⟩ := split
    have hfirst := splitFirst?_eq_some_iff.mp hr
    rw [Option.map_some, splitFirst?_eq_some_iff]
    refine ⟨by simp [hfirst.eq], fun p' q' h' => ?_⟩
    have hle := hs.length_le hnot h'
    obtain ⟨t, rfl⟩ : s <+: p' :=
      List.prefix_of_prefix_length_le (List.prefix_append s r)
        ⟨pattern ++ q', by rw [← List.append_assoc, h']⟩ hle
    have ht := hfirst.le t q' ((List.append_right_inj s).mp (by simpa using h'))
    simp only [Prod.map, List.length_append]
    omega

/-- **A text and what follows it are cleaned apart.** -/
theorem deleteAll_append (hpattern : pattern ≠ []) (hs : EndsApart pattern s) (r : List α) :
    deleteAll pattern (s ++ r) = deleteAll pattern s ++ deleteAll pattern r := by
  induction hn : s.length using Nat.strong_induction_on generalizing s with
  | _ n ih =>
    cases h : splitFirst? pattern s with
    | none =>
      have happend := splitFirst?_append_of_none hs h r
      rw [deleteAll_of_none h]
      cases hr : splitFirst? pattern r with
      | none =>
        rw [hr, Option.map_none] at happend
        rw [deleteAll_of_none happend, deleteAll_of_none hr]
      | some split =>
        rw [hr, Option.map_some] at happend
        rw [deleteAll_of_some hpattern happend, deleteAll_of_some hpattern hr]
        simp
    | some split =>
      obtain ⟨p, q⟩ := split
      have hlength := length_lt_of_splitFirst? h hpattern
      have hq : EndsApart pattern q := by
        rw [(splitFirst?_eq_some_iff.mp h).eq] at hs
        exact hs.of_append
      rw [deleteAll_of_some hpattern h, deleteAll_of_some hpattern (splitFirst?_append h r),
        ih _ (hn ▸ hlength) hq rfl, List.append_assoc]

/-- **What stands at the end of a text stays there**, unless it ends the pattern. -/
theorem getLast?_deleteAll (hpattern : pattern ≠ []) {a : α} (ha : pattern.getLast? ≠ some a)
    (hs : s.getLast? = some a) : (deleteAll pattern s).getLast? = some a := by
  induction hn : s.length using Nat.strong_induction_on generalizing s with
  | _ n ih =>
    cases h : splitFirst? pattern s with
    | none => rwa [deleteAll_of_none h]
    | some split =>
      obtain ⟨p, q⟩ := split
      have hlength := length_lt_of_splitFirst? h hpattern
      have hq : q.getLast? = some a := by
        rw [(splitFirst?_eq_some_iff.mp h).eq] at hs
        rcases List.eq_nil_or_concat q with rfl | ⟨q, b, rfl⟩
        · cases hb : pattern.getLast? with
          | none => exact absurd (List.getLast?_eq_none_iff.mp hb) hpattern
          | some b =>
            rw [List.append_nil, List.getLast?_append, hb] at hs
            exact absurd (hb.trans hs) ha
        · simpa [← List.append_assoc] using hs
      rw [deleteAll_of_some hpattern h, List.getLast?_append, ih _ (hn ▸ hlength) hq rfl]
      rfl

end FunctionSearch.Text
