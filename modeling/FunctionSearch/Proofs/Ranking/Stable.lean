import FunctionSearch.Proofs.Ranking.Order

/-!
# Tables as stable rankings

A table shows all results and nothing else, by falling score and otherwise in the order in which
they came, in three blocks of tiers.

* `classifyWords_eq`: tiers come out the same in machine words, in which nothing wraps.
* `exists_blocks` cuts results that fall into the blocks of their tiers.
* `Table.Ranks` says what a table shows of results, and `ranks_tableOf` that every table shows
  this.
-/

namespace FunctionSearch

/-! ## Tiers -/

namespace Tier

/-- The tier of a score of one byte against another one, by multiplication in words of 32 bits. -/
def classifyWords (score highest : UInt8) : Tier :=
  if 3 * highest.toUInt32 ≤ 4 * score.toUInt32 then .top
  else if highest.toUInt32 ≤ 2 * score.toUInt32 then .mid
  else .low

/-- **No product is too large for a word.** -/
theorem classifyWords_eq (score highest : UInt8) :
    classifyWords score highest = classify score.toNat highest.toNat := by
  have hscore := score.toNat_lt
  have hhighest := highest.toNat_lt
  have hmul : ∀ (k : UInt32) (byte : UInt8), k.toNat ≤ 4 →
      (k * byte.toUInt32).toNat = k.toNat * byte.toNat := by
    intro k byte hk
    have hbyte := byte.toNat_lt
    rw [UInt32.toNat_mul, UInt8.toNat_toUInt32, Nat.mod_eq_of_lt]
    calc k.toNat * byte.toNat ≤ 4 * 2 ^ 8 := Nat.mul_le_mul hk (Nat.le_of_lt hbyte)
      _ < 2 ^ 32 := by decide
  simp only [classifyWords, classify, UInt32.le_iff_toNat_le, hmul 3 highest (by decide),
    hmul 4 score (by decide), hmul 2 score (by decide), UInt8.toNat_toUInt32]
  rfl

theorem classify_eq_top_iff {score highest : Nat} :
    classify score highest = .top ↔ 3 * highest ≤ 4 * score := by
  rw [classify]
  split
  next h => exact iff_of_true rfl h
  next h => split <;> exact iff_of_false Tier.noConfusion h

theorem classify_eq_mid_iff {score highest : Nat} :
    classify score highest = .mid ↔ ¬ 3 * highest ≤ 4 * score ∧ highest ≤ 2 * score := by
  rw [classify]
  split
  next h => exact iff_of_false Tier.noConfusion fun hmid => hmid.1 h
  next h =>
    split
    next h' => exact iff_of_true rfl ⟨h, h'⟩
    next h' => exact iff_of_false Tier.noConfusion fun hmid => h' hmid.2

end Tier

namespace Ranking

/-! ## Blocks -/

/-- **Results whose scores never rise stand in the blocks of their tiers**, the top first. -/
theorem exists_blocks {results : List ScoredFunction} (hfalling : Falling results)
    (highest : Nat) :
    ∃ top mid low, results = top ++ mid ++ low ∧
      (∀ result ∈ top, Tier.classify result.score highest = .top) ∧
      (∀ result ∈ mid, Tier.classify result.score highest = .mid) ∧
      ∀ result ∈ low, Tier.classify result.score highest = .low := by
  let isTop (result : ScoredFunction) : Bool := decide (3 * highest ≤ 4 * result.score)
  let isMid (result : ScoredFunction) : Bool := decide (highest ≤ 2 * result.score)
  have hrest : ∀ result ∈ results.dropWhile isTop, ¬ 3 * highest ≤ 4 * result.score := by
    intro result hresult
    refine of_decide_eq_false (not_of_mem_dropWhile (p := isTop) (fun a b hle hb => ?_) hfalling
      hresult)
    have := of_decide_eq_true hb
    exact decide_eq_true (by omega)
  have hfalling' : Falling (results.dropWhile isTop) :=
    hfalling.sublist (List.dropWhile_sublist isTop)
  refine ⟨results.takeWhile isTop, (results.dropWhile isTop).takeWhile isMid,
    (results.dropWhile isTop).dropWhile isMid, ?_, fun result hresult => ?_,
    fun result hresult => ?_, fun result hresult => ?_⟩
  · rw [List.append_assoc, List.takeWhile_append_dropWhile, List.takeWhile_append_dropWhile]
  · exact Tier.classify_eq_top_iff.mpr (of_decide_eq_true
      (List.mem_takeWhile_imp (p := isTop) hresult))
  · exact Tier.classify_eq_mid_iff.mpr
      ⟨hrest result (List.takeWhile_subset isMid hresult),
        of_decide_eq_true (List.mem_takeWhile_imp (p := isMid) hresult)⟩
  · have hlow : ¬ highest ≤ 2 * result.score := by
      refine of_decide_eq_false (not_of_mem_dropWhile (p := isMid) (fun a b hle hb => ?_)
        hfalling' hresult)
      have := of_decide_eq_true hb
      exact decide_eq_true (by omega)
    rw [Tier.classify, if_neg (hrest result (List.dropWhile_subset isMid hresult)), if_neg hlow]

/-! ## Highest scores -/

/-- **The first of results whose scores never rise has the highest score.** -/
theorem score_le_highestOf {results : List ScoredFunction} (hfalling : Falling results)
    {result : ScoredFunction} (h : result ∈ results) : result.score ≤ highestOf results := by
  cases results with
  | nil => cases h
  | cons first rest =>
    obtain rfl | hmem := List.mem_cons.mp h
    · exact Nat.le_refl _
    · exact List.rel_of_pairwise_cons hfalling hmem

/-! ## Tables -/

/-- What a table shows of results. -/
structure Table.Ranks (table : Table) (description : String) (results : List ScoredFunction) :
    Prop where
  /-- The rows are the results, with all their fields. -/
  perm : (table.rows.map Row.result).Perm results
  falling : table.rows.Pairwise fun row below => below.score ≤ row.score
  /-- Results with one score stand in the order in which they came. -/
  stable : ∀ score, (table.rows.map Row.result).filter (·.score = score) =
    results.filter (·.score = score)
  highest : (∀ result ∈ results, result.score ≤ table.highest) ∧
    (results = [] ∧ table.highest = 0 ∨ ∃ result ∈ results, result.score = table.highest)
  /-- The tiers form three blocks, of which the first is empty without rows only. -/
  blocks : ∃ top mid low, table.rows = top ++ mid ++ low ∧ (table.rows ≠ [] → top ≠ []) ∧
    (∀ row ∈ top, row.tier = .top) ∧ (∀ row ∈ mid, row.tier = .mid) ∧
    ∀ row ∈ low, row.tier = .low
  /-- The tier of a row is a matter of its score and the highest one. -/
  tier : ∀ row ∈ table.rows,
    (row.tier = .top ↔ 3 * table.highest ≤ 4 * row.score) ∧
    (row.tier = .mid ↔ ¬ 3 * table.highest ≤ 4 * row.score ∧ table.highest ≤ 2 * row.score)
  /-- The rows shown as results make the same table. -/
  again : tableOf description (table.rows.map Row.result) = table

section Table

variable (description : String) (results : List ScoredFunction)

@[simp] theorem map_result_rows :
    (tableOf description results).rows.map Row.result = sorted results := by
  rw [tableOf, List.map_map]
  exact List.map_id _

/-- Results that are sorted stay as they are. -/
theorem sorted_sorted : sorted (sorted results) = sorted results :=
  eq_of_falling (falling_sorted _) (falling_sorted _) (filter_sorted (sorted results))

theorem falling_rows :
    (tableOf description results).rows.Pairwise fun row below => below.score ≤ row.score :=
  List.pairwise_map.mpr (falling_sorted results)

theorem highest_tableOf :
    (∀ result ∈ results, result.score ≤ (tableOf description results).highest) ∧
      (results = [] ∧ (tableOf description results).highest = 0 ∨
        ∃ result ∈ results, result.score = (tableOf description results).highest) := by
  refine ⟨fun result hresult => score_le_highestOf (falling_sorted results)
    ((sorted_perm results).mem_iff.mpr hresult), ?_⟩
  cases hsorted : sorted results with
  | nil =>
    refine .inl ⟨?_, ?_⟩
    · exact (hsorted ▸ sorted_perm results).nil_eq.symm
    · rw [tableOf, hsorted]
      rfl
  | cons first rest =>
    refine .inr ⟨first, ?_, ?_⟩
    · exact (sorted_perm results).mem_iff.mp (hsorted ▸ List.mem_cons_self)
    · rw [tableOf, hsorted]
      rfl

theorem exists_blocks_tableOf :
    ∃ top mid low, (tableOf description results).rows = top ++ mid ++ low ∧
      ((tableOf description results).rows ≠ [] → top ≠ []) ∧
      (∀ row ∈ top, row.tier = .top) ∧ (∀ row ∈ mid, row.tier = .mid) ∧
      ∀ row ∈ low, row.tier = .low := by
  obtain ⟨top, mid, low, hblocks, htop, hmid, hlow⟩ :=
    exists_blocks (falling_sorted results) (tableOf description results).highest
  refine ⟨top.map (rowOf _), mid.map (rowOf _), low.map (rowOf _), ?_, ?_,
    List.forall_mem_map.mpr htop, List.forall_mem_map.mpr hmid, List.forall_mem_map.mpr hlow⟩
  · rw [← List.map_append, ← List.map_append, ← hblocks]
    rfl
  · intro hrows hnil
    have hsorted : sorted results ≠ [] := fun hsorted => hrows (by rw [tableOf, hsorted]; rfl)
    obtain ⟨first, rest, hfirst⟩ := List.exists_cons_of_ne_nil hsorted
    have hhighest : (tableOf description results).highest = first.score := by
      rw [tableOf, hfirst]
      rfl
    -- the first result is in the top tier, so it stands in no other block
    have hclass : Tier.classify first.score (tableOf description results).highest = .top :=
      Tier.classify_eq_top_iff.mpr (by omega)
    have hmem : first ∈ top ++ mid ++ low := hblocks ▸ hfirst ▸ List.mem_cons_self
    rw [List.map_eq_nil_iff.mp hnil, List.nil_append, List.mem_append] at hmem
    obtain hmem | hmem := hmem
    · cases hclass.symm.trans (hmid first hmem)
    · cases hclass.symm.trans (hlow first hmem)

/-- **Every table is a stable ranking of its results.** -/
theorem ranks_tableOf : (tableOf description results).Ranks description results where
  perm := by
    rw [map_result_rows]
    exact sorted_perm results
  falling := falling_rows description results
  stable := fun score => by
    rw [map_result_rows]
    exact filter_sorted results score
  highest := highest_tableOf description results
  blocks := exists_blocks_tableOf description results
  tier := List.forall_mem_map.mpr fun _ _ => ⟨Tier.classify_eq_top_iff, Tier.classify_eq_mid_iff⟩
  again := by
    rw [map_result_rows, tableOf, tableOf, sorted_sorted]

end Table

end Ranking

end FunctionSearch
