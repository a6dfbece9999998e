import FunctionSearch.Proofs.Scoring.Echo
import FunctionSearch.Proofs.Scoring.Verdict
import FunctionSearch.Proofs.Search.Books

/-!
# The rows of a search

Whatever a model answers, the tables that are shown hold sound rows only.

* `Search.tables_of_result_eq_ok`: the tables of a search are those of the scoring of the functions
  it kept.
* `Search.forall_tables_shown`: every row of every table, when functions are scored and in whole
  searches, has a score on the scale and an explanation of one trimmed line, and names the function
  it was scored for.
-/

namespace FunctionSearch.Search

/-- The functions that a search scores. -/
def keptOf (batch : Batch.Run) (corpus : Artifact.Corpus) : List FunctionRecord :=
  keep (batch.report.binaries.filterMap FailedBinary.ofReport?) corpus.records

/-- The tables on the way of a search and the one in its summary are those of its scoring. -/
theorem tables_of_result_eq_ok {σ : Type} {search : Search σ} {target : Path} {description : String}
    {output : Path} {world : World σ} {summary : RunSummary}
    (h : (search.run target description output world).1.result = .ok summary) :
    ∃ batch after corpus,
      Batch.decompileTarget search.decompiler target output world = (.ok batch, after) ∧
      loadOutput after.files output = .ok corpus ∧
      (search.run target description output world).1.published ++ [summary.ranking] =
        (Scoring.scoreAll search.backend search.retries description (keptOf batch corpus)
          after).1.tables := by
  obtain ⟨batch, after, corpus, -, hbatch, hload, hrun⟩ := run_of_result_eq_ok h
  refine ⟨batch, after, corpus, hbatch, hload, ?_⟩
  rw [hrun] at h ⊢
  obtain rfl := Except.ok.inj h
  rfl

/-- **Every row of every table is sound.** Whatever a model answers, and in whatever states, the
tables after each success and the one at the end name a highest score of at most ten, and each of
their rows shows a sound result that one of the functions got in its turn. The tables of a search
that comes to a summary are of this kind, and its functions are those that it kept. -/
theorem forall_tables_shown :
    (∀ {τ : Type} (backend : Scoring.Backend τ) (retries : Nat) (description : String)
        (records : List FunctionRecord) (state : τ),
      ∀ table ∈ (Scoring.scoreAll backend retries description records state).1.tables,
        table.highest ≤ maxScore ∧
          ∀ row ∈ table.rows, Scoring.Shown backend retries description records state row) ∧
    ∀ {σ : Type} (search : Search σ) (target : Path) (description : String) (output : Path)
        (world : World σ) (summary : RunSummary),
      (search.run target description output world).1.result = .ok summary →
        ∃ batch after corpus,
          Batch.decompileTarget search.decompiler target output world = (.ok batch, after) ∧
          loadOutput after.files output = .ok corpus ∧
          ∀ table ∈ (search.run target description output world).1.published ++ [summary.ranking],
            table.highest ≤ maxScore ∧
              ∀ row ∈ table.rows, Scoring.Shown search.backend search.retries description
                (keptOf batch corpus) after row := by
  refine ⟨fun backend retries description records state table htable =>
    Scoring.shown_of_mem_tables backend retries description htable, ?_⟩
  intro σ search target description output world summary h
  obtain ⟨batch, after, corpus, hbatch, hload, htables⟩ := tables_of_result_eq_ok h
  refine ⟨batch, after, corpus, hbatch, hload, fun table htable => ?_⟩
  rw [htables] at htable
  exact Scoring.shown_of_mem_tables search.backend search.retries description htable

/-- A model whose every answer is a score and an explanation on two indented lines. -/
def wordy {τ : Type} : Scoring.Backend τ where
  name := "wordy"
  complete := fun _ state => (.ok "7\n looks like\n\n RC4 ", state)

theorem interpret_wordy :
    Scoring.interpret "7\n looks like\n\n RC4 " = .ok ⟨7, "looks like RC4"⟩ := by
  decide +kernel

/-- The result that such a model gives to a function. -/
def wordyResult : ScoredFunction :=
  ⟨"b", "f", 7, "looks like RC4"⟩

/-- One function and this model. -/
theorem scoreAll_wordy {τ : Type} (state : τ) :
    Scoring.scoreAll wordy 0 "rc4" [⟨"b", "f", "code"⟩] state =
      (⟨⟨"rc4", [wordyResult]⟩, [], [Ranking.tableOf "rc4" [wordyResult]]⟩, state) := by
  have hscore : Scoring.score wordy 0 "rc4" ⟨"b", "f", "code"⟩ state =
      (.ok wordyResult, state) := by
    rw [Scoring.score, Scoring.ask_of_verdict rfl interpret_wordy 0]
    rfl
  rw [Scoring.scoreAll, List.foldl_cons, List.foldl_nil, Scoring.scoreNext, hscore]
  rfl

theorem rows_tableOf_wordy :
    (Ranking.tableOf "rc4" [wordyResult]).rows = [Ranking.rowOf 7 wordyResult] := by
  rw [Ranking.tableOf, Ranking.sorted, List.mergeSort_singleton]
  rfl

/-- One function and this model, and a search with it of two binaries of which one fails. -/
theorem forall_tables_shown_wordy :
    (∃ table ∈ (Scoring.scoreAll wordy 0 "rc4" [⟨"b", "f", "code"⟩] ()).1.tables,
      Ranking.rowOf 7 wordyResult ∈ table.rows ∧ table.highest ≤ maxScore ∧
      Scoring.Shown wordy 0 "rc4" [⟨"b", "f", "code"⟩] () (Ranking.rowOf 7 wordyResult)) ∧
    ∃ summary,
      ({ leavingSearch ["a"] with backend := wordy }.run (.ofString "in") "rc4" (.ofString "out")
        (folderWorld ["a", "b"])).1.result = .ok summary ∧
      Ranking.rowOf 7 wordyResult ∈ summary.ranking.rows ∧ summary.ranking.highest ≤ maxScore ∧
      Scoring.Verdict.Sound ⟨7, "looks like RC4"⟩ := by
  obtain ⟨hscoring, hsearch⟩ := forall_tables_shown
  constructor
  · have htable : Ranking.tableOf "rc4" [wordyResult] ∈
        (Scoring.scoreAll wordy 0 "rc4" [⟨"b", "f", "code"⟩] ()).1.tables := by
      rw [scoreAll_wordy]
      exact List.mem_cons_self
    have hrow : Ranking.rowOf 7 wordyResult ∈ (Ranking.tableOf "rc4" [wordyResult]).rows := by
      rw [rows_tableOf_wordy]
      exact List.mem_singleton_self _
    obtain ⟨hhighest, hshown⟩ := hscoring wordy 0 "rc4" [⟨"b", "f", "code"⟩] () _ htable
    exact ⟨_, htable, hrow, hhighest, hshown _ hrow⟩
  · have hlist : mixedBatch.2.files.list (.ofString "out") =
        .ok ([leftByFailed "a", leftByDecompiled "b"].map Leftover.entry) := by
      decide +kernel
    have hhanded : ([leftByFailed "a", leftByDecompiled "b"].filter
        (HandedOver mixedBatch.1.report ·)).map Leftover.record = [⟨"b", "f", "code"⟩] := by
      decide +kernel
    have hrun := run_eq_scoreRecords { leavingSearch ["a"] with backend := wordy } (.ofString "in")
      "rc4" (by decide +kernel) decompileTarget_mixed hlist (by decide +kernel)
      (by decide +kernel)
    rw [hhanded, scoreRecords] at hrun
    simp only [scoreAll_wordy, leavingSearch] at hrun
    have hresult := congrArg (·.1.result) hrun
    obtain ⟨batch, after, corpus, -, -, hshown⟩ := hsearch _ _ _ _ _ _ hresult
    have hrow : Ranking.rowOf 7 wordyResult ∈ (Ranking.tableOf "rc4" [wordyResult]).rows := by
      rw [rows_tableOf_wordy]
      exact List.mem_singleton_self _
    obtain ⟨hhighest, hrows⟩ := hshown _ (List.mem_append_right _ (List.mem_singleton_self _))
    exact ⟨_, hresult, hrow, hhighest, (hrows _ hrow).sound⟩

end FunctionSearch.Search
