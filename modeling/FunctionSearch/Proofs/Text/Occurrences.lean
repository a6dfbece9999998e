import FunctionSearch.Proofs.Text.Lines
import FunctionSearch.Proofs.Text.Search

/-!
# The number of occurrences

How often a pattern occurs in a text, said by what replacing it does.

* `Replaces` relates a text to the one in which every occurrence is replaced, from left to right,
  and to the number of these replacements. There is one such text and one such number
  (`exists_replaces`, `Replaces.unique`), and the number is `occurrences` (`Replaces.count_eq`).
* `occurrences_append` and `occurrences_cons`: the number is found by trying the pattern at the
  start of the text.
* `counts_occurrences`: if the number is one, then no occurrence stands in front of the one that
  `replaceFirst` replaces nor behind it, and so nothing is left to be replaced.
-/

namespace FunctionSearch.Text

variable {α : Type} {pattern s : List α}

/-- `t` is `s` with `replacement` in the place of every occurrence of `pattern`, found from left to
right without overlap, and there are `n` of them. -/
inductive Replaces (pattern replacement : List α) : List α → List α → Nat → Prop
  | none {s : List α} (hnot : ¬ pattern <:+: s) : Replaces pattern replacement s s 0
  | next {s before after t : List α} {n : Nat} (hfirst : IsFirstSplit pattern s before after)
    (hrest : Replaces pattern replacement after t n) :
    Replaces pattern replacement s (before ++ replacement ++ t) (n + 1)

/-- **There is one way to replace every occurrence.** -/
theorem Replaces.unique {replacement t t' : List α} {n n' : Nat}
    (h : Replaces pattern replacement s t n) (h' : Replaces pattern replacement s t' n') :
    t = t' ∧ n = n' := by
  induction h generalizing t' n' with
  | none hnot =>
    cases h' with
    | none => exact ⟨rfl, rfl⟩
    | next hfirst => exact absurd hfirst.isInfix hnot
  | next hfirst _ ih =>
    cases h' with
    | none hnot => exact absurd hfirst.isInfix hnot
    | next hfirst' hrest' =>
      obtain ⟨rfl, rfl⟩ := hfirst.unique hfirst'
      obtain ⟨rfl, rfl⟩ := ih hrest'
      exact ⟨rfl, rfl⟩

variable [BEq α]

/-! ## One occurrence at a time -/

theorem occurrencesFrom_of_none (h : splitFirst? pattern s = none) (n : Nat) :
    occurrencesFrom pattern n s = n := by
  rw [occurrencesFrom]
  split
  · rfl
  · next hfound => cases h.symm.trans hfound

theorem occurrencesFrom_of_some (hpattern : pattern ≠ []) {before after : List α}
    (h : splitFirst? pattern s = some (before, after)) (n : Nat) :
    occurrencesFrom pattern n s = occurrencesFrom pattern (n + 1) after := by
  rw [occurrencesFrom]
  split
  · next hfound => cases h.symm.trans hfound
  · next hfound =>
    obtain ⟨rfl, rfl⟩ := Prod.mk.inj (Option.some.inj (h.symm.trans hfound))
    rw [dif_neg hpattern]

variable [LawfulBEq α]

/-- **Every occurrence can be replaced**, and those that were counted before are only added to the
number. -/
theorem exists_replaces_of_occurrencesFrom (hpattern : pattern ≠ []) (replacement s : List α)
    (n : Nat) :
    ∃ t m, Replaces pattern replacement s t m ∧ occurrencesFrom pattern n s = n + m := by
  induction hlength : s.length using Nat.strong_induction_on generalizing s n with
  | _ length ih =>
    cases h : splitFirst? pattern s with
    | none =>
      exact ⟨s, 0, .none (splitFirst?_eq_none_iff.mp h), occurrencesFrom_of_none h n⟩
    | some split =>
      obtain ⟨before, after⟩ := split
      have hlt : after.length < length := hlength ▸ length_lt_of_splitFirst? h hpattern
      obtain ⟨t, m, hrest, hcount⟩ := ih _ hlt after (n + 1) rfl
      refine ⟨_, m + 1, .next (splitFirst?_eq_some_iff.mp h) hrest, ?_⟩
      rw [occurrencesFrom_of_some hpattern h, hcount]
      omega

theorem exists_replaces (hpattern : pattern ≠ []) (replacement s : List α) :
    ∃ t, Replaces pattern replacement s t (occurrences pattern s) := by
  obtain ⟨t, m, h, hcount⟩ := exists_replaces_of_occurrencesFrom hpattern replacement s 0
  obtain rfl : occurrences pattern s = m := hcount.trans (Nat.zero_add m)
  exact ⟨t, h⟩

/-- **There are as many replacements as occurrences.** -/
theorem Replaces.count_eq (hpattern : pattern ≠ []) {replacement t : List α} {n : Nat}
    (h : Replaces pattern replacement s t n) : occurrences pattern s = n := by
  obtain ⟨_, hall⟩ := exists_replaces hpattern replacement s
  exact (hall.unique h).2

theorem occurrences_of_not_isInfix (h : ¬ pattern <:+: s) : occurrences pattern s = 0 :=
  occurrencesFrom_of_none (splitFirst?_eq_none_iff.mpr h) 0

theorem occurrences_of_isFirstSplit (hpattern : pattern ≠ []) {before after : List α}
    (h : IsFirstSplit pattern s before after) :
    occurrences pattern s = occurrences pattern after + 1 := by
  obtain ⟨_, hrest⟩ := exists_replaces hpattern [] after
  exact (Replaces.next h hrest).count_eq hpattern

/-- An occurrence at the start of a text is counted. -/
theorem occurrences_append (hpattern : pattern ≠ []) (s : List α) :
    occurrences pattern (pattern ++ s) = occurrences pattern s + 1 :=
  occurrences_of_isFirstSplit hpattern (isFirstSplit_append pattern s)

/-- Where none starts, the next element is tried. -/
theorem occurrences_cons {a : α} (h : ¬ pattern <+: a :: s) :
    occurrences pattern (a :: s) = occurrences pattern s := by
  have hpattern : pattern ≠ [] := fun hnil => h (hnil ▸ List.nil_prefix)
  cases hs : splitFirst? pattern s with
  | none =>
    have hnot := splitFirst?_eq_none_iff.mp hs
    rw [occurrences_of_not_isInfix hnot, occurrences_of_not_isInfix]
    rw [List.infix_cons_iff]
    exact fun hinfix => hinfix.elim h hnot
  | some split =>
    obtain ⟨before, after⟩ := split
    have hfirst := splitFirst?_eq_some_iff.mp hs
    have hcons : IsFirstSplit pattern (a :: s) (a :: before) after := by
      refine ⟨by simp [hfirst.eq], fun p q heq => ?_⟩
      cases p with
      | nil => exact absurd ⟨q, heq.symm⟩ h
      | cons b p =>
        obtain ⟨rfl, hrest⟩ := List.cons_eq_cons.mp heq
        exact Nat.succ_le_succ (hfirst.le p q hrest)
    rw [occurrences_of_isFirstSplit hpattern hfirst, occurrences_of_isFirstSplit hpattern hcons]

/-! ## What the number says -/

/-- `pattern` occurs `n` times in `s`, from left to right without overlap. -/
structure Counts (pattern s : List α) (n : Nat) : Prop where
  /-- Every occurrence can be replaced, in one way, and that takes `n` replacements. -/
  replaces : ∀ replacement, ∃ t, ∀ t' m, Replaces pattern replacement s t' m ↔ t' = t ∧ m = n
  /-- A single occurrence has no other one in front of it or behind it. So nothing is left to be
  replaced once the first occurrence is, and the pattern is gone, unless it stands in what has come
  in its place, as long as that is set apart from the rest. -/
  single : n = 1 → ∃ before after, IsFirstSplit pattern s before after ∧
    ¬ pattern <:+: before ∧ ¬ pattern <:+: after ∧ ∀ replacement,
      replaceFirst pattern replacement s = before ++ replacement ++ after ∧
      Replaces pattern replacement s (replaceFirst pattern replacement s) 1 ∧
      ∀ a inner b, a ∉ pattern → b ∉ pattern → replacement = a :: (inner ++ [b]) →
        (pattern <:+: replaceFirst pattern replacement s ↔ pattern <:+: inner)

omit [BEq α] [LawfulBEq α] in
/-- What occurs between two texts that it does not occur in, and from which elements that it does
not have set it apart, occurs in the middle. -/
theorem infix_between_iff {before inner after : List α} {a b : α} (ha : a ∉ pattern)
    (hb : b ∉ pattern) (hbefore : ¬ pattern <:+: before) (hafter : ¬ pattern <:+: after) :
    pattern <:+: before ++ a :: (inner ++ [b]) ++ after ↔ pattern <:+: inner := by
  constructor
  · intro h
    rw [List.append_assoc, List.cons_append, List.append_assoc, List.singleton_append] at h
    have hbehind := (infix_append_cons ha h).resolve_left hbefore
    exact (infix_append_cons hb hbehind).resolve_right hafter
  · intro h
    exact h.trans ⟨before ++ [a], [b] ++ after, by simp⟩

/-- **The occurrences are counted.** -/
theorem counts_occurrences (hpattern : pattern ≠ []) (s : List α) :
    Counts pattern s (occurrences pattern s) where
  replaces replacement := by
    obtain ⟨t, h⟩ := exists_replaces hpattern replacement s
    refine ⟨t, fun t' m => ⟨fun h' => h'.unique h, ?_⟩⟩
    rintro ⟨rfl, rfl⟩
    exact h
  single hone := by
    obtain ⟨_, h⟩ := exists_replaces hpattern [] s
    rw [hone] at h
    -- one replacement is made, and none behind it
    obtain _ | ⟨hfirst, hrest⟩ := h
    obtain hafter | _ := hrest
    refine ⟨_, _, hfirst, hfirst.not_isInfix hpattern, hafter, fun replacement => ?_⟩
    rw [hfirst.replaceFirst_eq]
    refine ⟨rfl, .next hfirst (.none hafter), ?_⟩
    rintro a inner b ha hb rfl
    exact infix_between_iff ha hb (hfirst.not_isInfix hpattern) hafter

end FunctionSearch.Text
