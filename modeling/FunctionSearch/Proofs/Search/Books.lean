import FunctionSearch.Proofs.Search.Attribution

/-!
# The books of a search

Every binary, every file and every function of a search is counted once in its summary.

* `BatchReport.total_eq`: a binary was decompiled, or passed over, or it failed.
* `Artifact.length_ofEntries`: a file is read as a function or listed as malformed.
* `Scoring.Report.Balanced`: what one more scored function keeps (`Balanced.add`) and a whole list
  of them therefore has (`balanced_scoreAll`): a function has a place in the ranking or among the
  failures, there is a table for each place, and a failure is of one of two kinds.
* `Search.summary_balances`: the numbers in the summary of a search add up.
-/

namespace FunctionSearch

/-! ## Binaries -/

/-- **A binary was decompiled, or passed over, or it failed.** -/
theorem BatchReport.total_eq (report : BatchReport) :
    report.total = report.succeeded + report.duplicates +
      (report.binaries.filterMap FailedBinary.ofReport?).length := by
  obtain ⟨binaries⟩ := report
  simp only [BatchReport.total, BatchReport.succeeded, BatchReport.duplicates]
  induction binaries with
  | nil => rfl
  | cons item binaries ih =>
    obtain ⟨binary, outcome⟩ := item
    cases outcome <;>
      simp only [List.length_cons, List.countP_cons, List.filterMap_cons, FailedBinary.ofReport?,
        BinaryOutcome.isDecompiled, BinaryOutcome.isDuplicate, Bool.false_eq_true, if_true,
        if_false, ih] <;>
      omega

/-! ## Files -/

/-- The number of files directly in a directory; none if it cannot be listed. -/
def FileTree.fileCount (tree : FileTree) (directory : Path) : Nat :=
  match tree.list directory with
  | .ok entries => entries.countP (Batch.isPlainFile ·.2)
  | .error _ => 0

/-- **A file is read as a function or listed as malformed**, be it for its name or because it cannot
be read. -/
theorem Artifact.length_ofEntries (tree : FileTree) (directory : Path)
    (entries : List (Name × Entry)) :
    entries.countP (Batch.isPlainFile ·.2) =
      (Corpus.ofEntries tree directory entries).records.length +
        (Corpus.ofEntries tree directory entries).malformed.length := by
  induction entries with
  | nil => rfl
  | cons item entries ih =>
    obtain ⟨name, entry⟩ := item
    simp only [Corpus.ofEntries] at ih ⊢
    cases entry with
    | file content mode =>
      rw [List.countP_cons_of_pos rfl, ih,
        List.filterMap_cons_some (show readEntry tree directory (name, .file content mode) =
          some (readFile tree directory name) from rfl)]
      cases readFile tree directory name with
      | inl record => simp only [List.filterMap_cons, Sum.elim_inl, List.length_cons]; omega
      | inr malformed => simp only [List.filterMap_cons, Sum.elim_inr, List.length_cons]; omega
    | directory => exact ih
    | link target => exact ih

/-- Every file in an output directory is in its corpus. -/
theorem Search.fileCount_of_loadOutput {tree : FileTree} {output : Path} {corpus : Artifact.Corpus}
    (h : loadOutput tree output = .ok corpus) :
    tree.fileCount output = corpus.records.length + corpus.malformed.length := by
  rw [FileTree.fileCount]
  cases hlist : tree.list output with
  | ok entries =>
    rw [loadOutput_of_list hlist] at h
    obtain rfl := Except.ok.inj h
    exact Artifact.length_ofEntries tree output entries
  | error cause =>
    -- what cannot be listed is no directory, so nothing was loaded
    rw [loadOutput, Artifact.Corpus.load, hlist] at h
    split at h
    · cases h
    · obtain rfl := Except.ok.inj h
      rfl

/-! ## Functions -/

namespace Scoring

namespace Report

/-- A report in which `count` functions have been accounted for. -/
structure Balanced (count : Nat) (report : Report) : Prop where
  placed : report.ranking.results.length + report.failures.length = count
  shown : report.published.length = report.ranking.results.length
  sorted : ∀ failure ∈ report.failures, failure.kind = "parse" ∨ failure.kind = "inference"

theorem balanced_empty (description : String) : (empty description).Balanced 0 :=
  ⟨rfl, rfl, List.forall_mem_nil _⟩

/-- One more function is accounted for, whatever came of it. -/
theorem Balanced.add {count : Nat} {report : Report} (h : report.Balanced count)
    (record : FunctionRecord) (outcome : Except ScoreError ScoredFunction) :
    (report.add record outcome).Balanced (count + 1) := by
  obtain ⟨hplaced, hshown, hsorted⟩ := h
  cases outcome with
  | ok result =>
    refine ⟨?_, ?_, hsorted⟩
    · simp only [Report.add, Ranking.push, List.length_append, List.length_singleton]
      omega
    · simp only [Report.add, Ranking.push, List.length_append, List.length_singleton]
      omega
  | error error =>
    refine ⟨?_, hshown, ?_⟩
    · simp only [Report.add, List.length_append, List.length_singleton]
      omega
    · simp only [Report.add, List.forall_mem_append, List.forall_mem_singleton]
      refine ⟨hsorted, ?_⟩
      rw [ScoreError.kind]
      split
      · exact .inl rfl
      · exact .inr rfl

/-- **Every failure is counted under one kind.** -/
theorem Balanced.length_failures {count : Nat} {report : Report} (h : report.Balanced count) :
    report.failures.length = report.unparseable + report.failedInference := by
  have hsorted := h.sorted
  rw [unparseable, failedInference, countOf, countOf]
  generalize report.failures = failures at hsorted
  induction failures with
  | nil => rfl
  | cons failure failures ih =>
    rw [List.forall_mem_cons] at hsorted
    rw [List.length_cons, List.countP_cons, List.countP_cons, ih hsorted.2]
    obtain hkind | hkind := hsorted.1
    · rw [hkind, if_pos (by decide), if_neg (by decide)]
      omega
    · rw [hkind, if_neg (by decide), if_pos (by decide)]
      omega

end Report

variable {σ : Type}

/-- **Every function of a list is accounted for when the list has been scored.** -/
theorem balanced_scoreAll (backend : Backend σ) (retries : Nat) (description : String)
    (records : List FunctionRecord) (state : σ) :
    (scoreAll backend retries description records state).1.Balanced records.length := by
  -- the work may go on from any report that is balanced
  have hfold : ∀ (done : Report × σ) (count : Nat), done.1.Balanced count →
      (records.foldl (scoreNext backend retries description) done).1.Balanced
        (count + records.length) := by
    induction records with
    | nil => exact fun done count h => h
    | cons record records ih =>
      intro done count h
      have hnext := ih (scoreNext backend retries description done record) (count + 1)
        (h.add record _)
      rw [List.foldl_cons, List.length_cons, Nat.add_comm records.length, ← Nat.add_assoc]
      exact hnext
  have := hfold (.empty description, state) 0 (Report.balanced_empty description)
  rwa [Nat.zero_add] at this

end Scoring

/-- A table has a row for each result. -/
theorem Ranking.length_rows_table (ranking : Ranking) :
    ranking.table.rows.length = ranking.results.length := by
  simp [Ranking.table, Ranking.tableOf, Ranking.sorted]

/-! ## Whole searches -/

namespace Search

variable {σ : Type}

/-- A search that comes to a summary has decompiled its target, loaded what was left in the output
directory, and scored what it kept of that. -/
theorem run_of_result_eq_ok {search : Search σ} {target : Path} {description : String}
    {output : Path} {world : World σ} {summary : RunSummary}
    (h : (search.run target description output world).1.result = .ok summary) :
    ∃ batch after corpus,
      checkOutput world.files output = .ok () ∧
      Batch.decompileTarget search.decompiler target output world = (.ok batch, after) ∧
      loadOutput after.files output = .ok corpus ∧
      search.run target description output world =
        search.scoreRecords target description batch corpus
          (keep (batch.report.binaries.filterMap FailedBinary.ofReport?) corpus.records) after := by
  rw [run] at h ⊢
  cases hcheck : checkOutput world.files output with
  | error error => rw [hcheck] at h; cases h
  | ok _ =>
    rw [hcheck] at h
    rcases hbatch : Batch.decompileTarget search.decompiler target output world with
      ⟨outcome, after⟩
    simp only [hbatch] at h ⊢
    cases outcome with
    | error error => cases h
    | ok batch =>
      simp only [scoreOutput] at h ⊢
      cases hload : loadOutput after.files output with
      | error error => rw [hload] at h; cases h
      | ok corpus => exact ⟨batch, after, corpus, trivial, rfl, hload, rfl⟩

/-- **The numbers in a summary add up.** The binaries are those decompiled, passed over and failed.
The files in the output directory after decompilation are the functions that are scored, those of
failed binaries and the malformed files. The functions are those with a score and those without one,
which are the failures. There is a row and a table for each score. -/
theorem summary_balances {search : Search σ} {target : Path} {description : String} {output : Path}
    {world : World σ} {summary : RunSummary}
    (h : (search.run target description output world).1.result = .ok summary) :
    summary.binariesTotal =
        summary.binariesDecompiled + summary.binariesDuplicate + summary.binariesFailed.length ∧
      (∃ batch after,
        Batch.decompileTarget search.decompiler target output world = (.ok batch, after) ∧
        summary.binariesTotal = batch.report.binaries.length ∧
        after.files.fileCount output =
          summary.functionsLoaded + summary.partialDiscarded +
            summary.malformedArtifacts.length) ∧
      summary.functionsLoaded =
        summary.scored + summary.skippedUnparseable + summary.failedInference ∧
      summary.skippedUnparseable + summary.failedInference = summary.scoreFailures.length ∧
      summary.scored = summary.ranking.rows.length ∧
      summary.scored = (search.run target description output world).1.published.length := by
  obtain ⟨batch, after, corpus, -, hbatch, hload, hrun⟩ := run_of_result_eq_ok h
  rw [hrun] at h ⊢
  let kept := keep (batch.report.binaries.filterMap FailedBinary.ofReport?) corpus.records
  let scoring := Scoring.scoreAll search.backend search.retries description kept after
  obtain rfl : summarize target description batch.report corpus kept scoring.1 scoring.2.clock =
    summary := Except.ok.inj h
  have hbinaries := batch.report.total_eq
  have hfiles := fileCount_of_loadOutput hload
  have hkept : kept.length ≤ corpus.records.length := List.length_filter_le _ _
  have hscoring : scoring.1.Balanced kept.length :=
    Scoring.balanced_scoreAll search.backend search.retries description kept after
  have hfailures := hscoring.length_failures
  have hplaced := hscoring.placed
  refine ⟨hbinaries, ⟨batch, after, hbatch, rfl, ?_⟩, ?_, hfailures.symm,
    (Ranking.length_rows_table scoring.1.ranking).symm, hscoring.shown.symm⟩
  · simp only [summarize]
    omega
  · simp only [summarize]
    omega

/-- A decompiler that leaves one more function of every binary, in a file that may not be read. -/
def sealing (decompiler : Decompiler Unit) : Decompiler Unit where
  name := "sealing"
  decompile binary output world :=
    let (result, world) := decompiler.decompile binary output world
    let name := Text.bytes (Artifact.fileName binary.fileNameText "g" 1)
    (result, { world with
      files := world.files.put [Text.bytes "out", name] (.file [] ⟨false, false⟩) })

/-- Two binaries of which one fails. Each of them leaves a function that can be read and one that
cannot, and the model says nothing. -/
theorem summary_balances_sealed :
    ∃ summary,
      ({ leavingSearch [] with decompiler := sealing (leaving ["a"]) }.run (.ofString "in") "rc4"
        (.ofString "out") (folderWorld ["a", "b"])).1.result = .ok summary ∧
      summary.binariesTotal = 2 ∧
      2 = summary.binariesDecompiled + summary.binariesDuplicate + summary.binariesFailed.length ∧
      (batchOfTwo (sealing (leaving ["a"]))).2.files.fileCount (.ofString "out") = 4 ∧
      summary.functionsLoaded = 1 ∧ summary.malformedArtifacts.length = 2 ∧
      4 = 1 + summary.partialDiscarded + 2 ∧
      1 = summary.scored + summary.skippedUnparseable + summary.failedInference := by
  let search : Search Unit := { leavingSearch [] with decompiler := sealing (leaving ["a"]) }
  have hbatch := decompileTarget_two (sealing (leaving ["a"]))
  generalize hmade : batchOfTwo (sealing (leaving ["a"])) = made at hbatch
  have hload : loadOutput made.2.files (.ofString "out") = .ok
      ⟨[⟨"a", "f", "code"⟩, ⟨"b", "f", "code"⟩],
        [⟨.ofString "out/a__g__1.c", "Permission denied (os error 13)"⟩,
          ⟨.ofString "out/b__g__1.c", "Permission denied (os error 13)"⟩]⟩ := by
    rw [← hmade]
    decide +kernel
  have hkept : keep (made.1.report.binaries.filterMap FailedBinary.ofReport?)
      [⟨"a", "f", "code"⟩, ⟨"b", "f", "code"⟩] = [⟨"b", "f", "code"⟩] := by
    rw [← hmade]
    decide +kernel
  have hempty : checkOutput (folderWorld ["a", "b"]).files (.ofString "out") = .ok () := by
    decide +kernel
  obtain ⟨summary, hresult, hloaded, hmalformed⟩ : ∃ summary,
      (search.run (.ofString "in") "rc4" (.ofString "out") (folderWorld ["a", "b"])).1.result =
        .ok summary ∧ summary.functionsLoaded = 1 ∧ summary.malformedArtifacts.length = 2 := by
    simp only [search, run, hempty, hbatch, scoreOutput, hload, hkept, scoreRecords]
    exact ⟨_, rfl, rfl, rfl⟩
  obtain ⟨hbinaries, ⟨batch, after, hbatch', htotal, hfiles⟩, hfunctions, -⟩ :=
    summary_balances hresult
  obtain ⟨rfl, rfl⟩ : made.1 = batch ∧ made.2 = after := by
    simpa using hbatch.symm.trans hbatch'
  have hlength : made.1.report.binaries.length = 2 := by
    rw [← hmade]
    decide +kernel
  have hcount : made.2.files.fileCount (.ofString "out") = 4 := by
    rw [← hmade]
    decide +kernel
  rw [htotal, hlength] at hbinaries
  rw [hloaded, hmalformed, hcount] at hfiles
  rw [hloaded] at hfunctions
  exact ⟨summary, hresult, htotal.trans hlength, hbinaries, hcount, hloaded, hmalformed, hfiles,
    hfunctions⟩

end Search

end FunctionSearch
