import FunctionSearch.Proofs.Ranking.Order
import FunctionSearch.Proofs.Scoring.Grammar
import FunctionSearch.Proofs.Scoring.Loop
import FunctionSearch.Proofs.Scoring.Retry

/-!
# What a verdict can say

Whatever a model answers, the verdict that is read from it has a score on the scale and an
explanation on one line.

* `Verdict.Sound` says so, and `sound_of_interpret` that every verdict is sound.
* `sound_of_score`: a result is sound, and names the function that it was scored for.
* `Shown` says of a row that it shows such a result, and `shown_of_mem_tables` that this holds of
  the rows of all tables of a report.
-/

namespace FunctionSearch

namespace Scoring

/-- A verdict with a score on the scale, and an explanation of one trimmed line that a score of zero
lacks. -/
structure Verdict.Sound (verdict : Verdict) : Prop where
  score_le : verdict.score ≤ maxScore
  explanation_of_zero : verdict.score = 0 → verdict.explanation = ""
  feed_notMem : '\n' ∉ verdict.explanation.toList
  trimmed : Text.IsTrimmed verdict.explanation.toList

/-! ## Reading -/

/-- The lines of an explanation are trimmed, and those that are blank are left out. -/
theorem of_mem_explanation {lines : List (List Char)} {piece : List Char}
    (h : piece ∈ (lines.map Text.trim).filter (!·.isEmpty)) :
    piece ≠ [] ∧ ∃ line ∈ lines, Text.trim line = piece := by
  obtain ⟨hmem, hne⟩ := List.mem_filter.mp h
  refine ⟨?_, List.mem_map.mp hmem⟩
  rintro rfl
  cases hne

theorem isTrimmed_explanationOf (lines : List (List Char)) :
    Text.IsTrimmed (explanationOf lines) := by
  refine Text.isTrimmed_spaced fun piece hpiece => ?_
  obtain ⟨hne, line, -, rfl⟩ := of_mem_explanation hpiece
  exact ⟨hne, Text.isTrimmed_trim line⟩

theorem feed_notMem_explanationOf {lines : List (List Char)} (h : ∀ line ∈ lines, '\n' ∉ line) :
    '\n' ∉ explanationOf lines := by
  intro hmem
  obtain hspace | ⟨piece, hpiece, hfeed⟩ := Text.eq_or_exists_of_mem_spaced hmem
  · cases hspace
  · obtain ⟨-, line, hline, rfl⟩ := of_mem_explanation hpiece
    exact h line hline ((Text.isInfix_trim line).subset hfeed)

theorem sound_of_verdictOf {lines : List (List Char)} {verdict : Verdict}
    (hlines : ∀ line ∈ lines, '\n' ∉ line) (h : verdictOf lines = .ok verdict) :
    verdict.Sound := by
  rw [verdictOf] at h
  split at h
  · cases h
  next score hscore =>
    obtain rfl := Except.ok.inj h
    have hle := (scoreOf_ok_iff.mp (parseScore_eq_iff.mp hscore)).2
    by_cases hzero : score = 0
    · rw [if_pos hzero]
      exact ⟨hle, fun _ => rfl, List.not_mem_nil, Text.isTrimmed_nil⟩
    · rw [if_neg hzero]
      refine ⟨hle, fun h => absurd h hzero, ?_, ?_⟩
      · rw [String.toList_ofList]
        exact feed_notMem_explanationOf fun line hline => hlines line (List.mem_of_mem_tail hline)
      · rw [String.toList_ofList]
        exact isTrimmed_explanationOf lines.tail

/-- **Every verdict is sound**, whatever the model answered. -/
theorem sound_of_interpret {raw : String} {verdict : Verdict} (h : interpret raw = .ok verdict) :
    verdict.Sound := by
  rw [interpret, parse] at h
  exact sound_of_verdictOf (fun _ => Text.feed_notMem_of_mem_lines) h

/-! ## Scoring -/

variable {σ : Type}

/-- **A result is sound, and names the function that it was scored for.** -/
theorem sound_of_score {backend : Backend σ} {retries : Nat} {description : String}
    {record : FunctionRecord} {state : σ} {result : ScoredFunction}
    (h : (score backend retries description record state).1 = .ok result) :
    result.binary = record.binary ∧ result.function = record.function ∧
      Verdict.Sound ⟨result.score, result.explanation⟩ := by
  rw [score] at h
  cases hask : (ask backend (prompt description record.code) retries state).1 with
  | error error =>
    dsimp only at h
    rw [hask] at h
    cases h
  | ok verdict =>
    dsimp only at h
    rw [hask] at h
    obtain rfl := Except.ok.inj h
    obtain ⟨raw, hraw⟩ := exists_interpret_of_ask hask
    have hsound := sound_of_interpret hraw
    -- a verdict with a score of zero has no explanation that could be dropped
    have hkept : (ScoredFunction.ofVerdict record verdict.score verdict.explanation).explanation =
        verdict.explanation := by
      rw [ScoredFunction.ofVerdict]
      split
      next hzero => exact (hsound.explanation_of_zero hzero).symm
      · rfl
    refine ⟨rfl, rfl, ?_⟩
    rw [hkept]
    exact hsound

end Scoring

/-! ## Tables -/

namespace Ranking

theorem forall_rows_tableOf {description : String} {results : List ScoredFunction}
    {p : ScoredFunction → Prop} (h : ∀ result ∈ results, p result) :
    ∀ row ∈ (tableOf description results).rows, p row.result := by
  rw [tableOf, List.forall_mem_map]
  exact fun result hresult => h result ((sorted_perm results).mem_iff.mp hresult)

/-- The highest score is that of a row, or zero. -/
theorem highest_tableOf_le {description : String} {results : List ScoredFunction} {bound : Nat}
    (h : ∀ result ∈ results, result.score ≤ bound) :
    (tableOf description results).highest ≤ bound := by
  have hsorted : ∀ result ∈ sorted results, result.score ≤ bound := fun result hresult =>
    h result ((sorted_perm results).mem_iff.mp hresult)
  rw [tableOf]
  dsimp only
  cases hfirst : sorted results with
  | nil => exact Nat.zero_le bound
  | cons first rest => exact hsorted first (hfirst ▸ List.mem_cons_self)

end Ranking

namespace Scoring

variable {σ : Type} (backend : Backend σ) (retries : Nat) (description : String)

/-- What a row shows when these functions are scored: a sound result, which is the one that one of
the functions got in its turn. -/
structure Shown (records : List FunctionRecord) (state : σ) (row : Ranking.Row) : Prop where
  sound : Verdict.Sound ⟨row.score, row.explanation⟩
  scored : ∃ before record after, records = before ++ record :: after ∧
    row.binary = record.binary ∧ row.function = record.function ∧
    (score backend retries description record
      (scoreAll backend retries description before state).2).1 = .ok row.result

/-- What comes of a function is what comes of it in its turn. -/
theorem exists_of_mem_outcomes {records : List FunctionRecord} {state : σ} {outcome : Outcome}
    (h : outcome ∈ (outcomes backend retries description records state).1) :
    ∃ before after, records = before ++ outcome.record :: after ∧
      outcome.result = (score backend retries description outcome.record
        (outcomes backend retries description before state).2).1 := by
  induction records generalizing state with
  | nil => cases h
  | cons record records ih =>
    obtain rfl | hmem := List.mem_cons.mp h
    · exact ⟨[], records, rfl, rfl⟩
    · obtain ⟨before, after, rfl, hresult⟩ := ih hmem
      exact ⟨record :: before, after, rfl, hresult⟩

/-- A row with the result of an outcome shows it. -/
theorem shown_of_mem_outcomes {records : List FunctionRecord} {state : σ} {outcome : Outcome}
    {row : Ranking.Row} (h : outcome ∈ (outcomes backend retries description records state).1)
    (hrow : outcome.result = .ok row.result) :
    Shown backend retries description records state row := by
  obtain ⟨before, after, hrecords, hresult⟩ :=
    exists_of_mem_outcomes backend retries description h
  rw [← (scoreAll_eq backend retries description before state).2] at hresult
  have hscore := hresult.symm.trans hrow
  obtain ⟨hbinary, hfunction, hsound⟩ := sound_of_score hscore
  exact ⟨hsound, before, outcome.record, after, hrecords, hbinary, hfunction, hscore⟩

/-- The tables of a report: one after each success, and the one at the end. -/
def Report.tables (report : Report) : List Ranking.Table :=
  report.published ++ [report.ranking.table]

/-- The tables of a report are made of its successes. -/
theorem exists_tableOf_of_mem {report : Report} {done : List Outcome}
    (h : report.Partitions description done) {table : Ranking.Table}
    (htable : table ∈ report.tables) :
    ∃ results ⊆ done.filterMap Outcome.success?,
      table = Ranking.tableOf description results := by
  obtain hpublished | hfinal := List.mem_append.mp htable
  · rw [h.published] at hpublished
    obtain ⟨k, -, rfl⟩ := List.mem_map.mp hpublished
    exact ⟨_, List.take_subset (k + 1) _, rfl⟩
  · refine ⟨_, List.Subset.refl _, ?_⟩
    rw [List.mem_singleton.mp hfinal, h.ranking]
    rfl

/-- **Every row of every table shows what a function got in its turn**, and no table names a highest
score beyond the scale. -/
theorem shown_of_mem_tables {records : List FunctionRecord} {state : σ} {table : Ranking.Table}
    (h : table ∈ (scoreAll backend retries description records state).1.tables) :
    table.highest ≤ maxScore ∧
      ∀ row ∈ table.rows, Shown backend retries description records state row := by
  obtain ⟨results, hsubset, rfl⟩ := exists_tableOf_of_mem description
    (scoreAll_eq backend retries description records state).1 h
  have hsuccess : ∀ result ∈ results, ∃ outcome ∈
      (outcomes backend retries description records state).1, outcome.result = .ok result := by
    intro result hresult
    obtain ⟨outcome, houtcome, hsome⟩ := List.mem_filterMap.mp (hsubset hresult)
    exact ⟨outcome, houtcome, Outcome.success?_eq_some_iff.mp hsome⟩
  constructor
  · refine Ranking.highest_tableOf_le fun result hresult => ?_
    obtain ⟨outcome, houtcome, hok⟩ := hsuccess result hresult
    have hshown : Shown backend retries description records state (Ranking.rowOf 0 result) :=
      shown_of_mem_outcomes backend retries description houtcome hok
    exact hshown.sound.score_le
  · intro row hrow
    obtain ⟨outcome, houtcome, hok⟩ := Ranking.forall_rows_tableOf hsuccess row hrow
    exact shown_of_mem_outcomes backend retries description houtcome hok

end Scoring

end FunctionSearch
