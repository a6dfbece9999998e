import FunctionSearch.CommandLine.Command
import FunctionSearch.Proofs.Decompiler.Copies
import FunctionSearch.Proofs.Search.Books

/-!
# How a run without success ends

A run in which no binary is decompiled should end with a code that says so. The two commands that
decompile look for binaries that are neither decompiled nor passed over, and so they take a copy for
a success although it may be a copy of a binary that failed.

* `IsTarget` says which binaries a path leads to, and `FindRequest.Works` and
  `DecompileRequest.Works` that a command gets as far as a batch of them.
* `code_perform_find_eq_zero_iff` and `code_perform_decompile_eq_zero_iff`: when a command ends
  well.
* `exit_without_success_iff`: a run without success is reported as a failure exactly if no two of
  the contents that can be read are alike.
* `success_of_failed_copies`: a binary with which the decompiler fails, and a copy of it.
-/

namespace FunctionSearch

/-! ## Targets -/

namespace Batch

variable {σ : Type}

/-- The binaries that a path leads to: the files of a directory, or a file itself. -/
def IsTarget (tree : FileTree) (target : Path) (binaries : List Path) : Prop :=
  if tree.isDirectory target = true then filesOf tree target = .ok binaries
  else tree.isFile target = true ∧ binaries = [target]

/-- A target that is decompiled is a list of binaries that is. -/
theorem decompileTarget_of_isTarget {decompiler : Decompiler σ} {target output : Path}
    {world : World σ} {binaries : List Path} (h : IsTarget world.files target binaries) :
    decompileTarget decompiler target output world =
      (.ok (decompileAll decompiler binaries output world).1,
        (decompileAll decompiler binaries output world).2) := by
  unfold IsTarget at h
  rw [decompileTarget]
  split at h
  · next hdirectory =>
    rw [if_pos hdirectory, decompileFolder, h]
  · next hdirectory =>
    obtain ⟨hfile, rfl⟩ := h
    rw [if_neg hdirectory, if_pos hfile]

end Batch

namespace Search

variable {σ : Type} {search : Search σ} {target : Path} {description : String} {output : Path}
  {world : World σ} {binaries : List Path}

/-- A search works through the binaries of its target, and then scores what this left. -/
theorem run_of_isTarget (hvacant : checkOutput world.files output = .ok ())
    (htarget : Batch.IsTarget world.files target binaries) :
    search.run target description output world =
      search.scoreOutput target description output
        (Batch.decompileAll search.decompiler binaries output world).1
        (Batch.decompileAll search.decompiler binaries output world).2 := by
  rw [run, hvacant]
  simp only [Batch.decompileTarget_of_isTarget htarget]

/-- A search that can read what a batch left ends with a summary. -/
theorem exists_summary_of_loadOutput {batch : Batch.Run} {corpus : Artifact.Corpus}
    (hload : loadOutput world.files output = .ok corpus) :
    ∃ summary, (search.scoreOutput target description output batch world).1.result =
      .ok summary := by
  rw [scoreOutput, hload]
  exact ⟨_, rfl⟩

/-- The summary of a search is about the batch over its target. -/
theorem nothingDecompiled_eq {summary : RunSummary}
    (htarget : Batch.IsTarget world.files target binaries)
    (h : (search.run target description output world).1.result = .ok summary) :
    summary.nothingDecompiled =
      (Batch.decompileAll search.decompiler binaries output world).1.report.nothingDecompiled := by
  obtain ⟨batch, after, corpus, -, hbatch, -, hrun⟩ := run_of_result_eq_ok h
  rw [Batch.decompileTarget_of_isTarget htarget] at hbatch
  obtain ⟨rfl, -⟩ : (Batch.decompileAll search.decompiler binaries output world).1 = batch ∧ _ := by
    simpa using hbatch
  rw [hrun] at h
  obtain rfl := Except.ok.inj h
  rfl

end Search

namespace CommandLine

open Batch

variable {σ : Type} {services : Services σ} {world start : World σ} {binaries : List Path}

/-! ## When a command ends well -/

theorem code_ending {α : Type} (printed : Printed α) :
    printed.ending.code = 0 ↔ ∃ value, printed.result = .ok value := by
  rw [Printed.ending]
  cases printed.result <;> simp

/-- A find command ends well if it prints a summary that does not say that nothing was
decompiled. -/
theorem code_perform_find_eq_zero_iff [Libraries] (request : FindRequest) :
    (perform services (.find request) world).1.code = 0 ↔
      ∃ summary, (find services request world).1.result = .ok summary ∧
        summary.nothingDecompiled = false := by
  change (demandFunctions (find services request world).1).ending.code = 0 ↔ _
  rw [code_ending, demandFunctions]
  cases hresult : (find services request world).1.result with
  | error error => simp [hresult]
  | ok summary => cases hnothing : summary.nothingDecompiled <;> simp [hresult, hnothing]

/-- A batch is printed well if its report can be written and does not say that nothing was
decompiled. -/
theorem code_ending_printBatch (json : Bool) (tree : FileTree) (output : Path) (run : Batch.Run) :
    (printBatch json tree output run).ending.code = 0 ↔
      (∃ text, batchOutput json tree output run.report = .ok text) ∧
        run.report.nothingDecompiled = false := by
  rw [code_ending, printBatch]
  cases batchOutput json tree output run.report with
  | error error => simp
  | ok text => cases run.report.nothingDecompiled <;> simp

/-! ## Commands that get as far as a batch -/

/-- The find command gets as far as a batch of these binaries, which begins in the world `start`. -/
structure FindRequest.Works [Libraries] (services : Services σ) (request : FindRequest)
    (world start : World σ) (search : Search σ) (output : Path) (binaries : List Path) : Prop where
  prepared : request.prepare services world.files = .ok search
  opened : ∃ scratch,
    openStore services.environment world.files request.keepOutput =
      .ok (⟨output, scratch⟩, start.files)
  started : start = { world with files := start.files }
  vacant : Search.checkOutput start.files output = .ok ()
  target : IsTarget start.files request.target binaries

/-- The decompile command gets as far as a batch of these binaries, which begins in the world
`start`. -/
structure DecompileRequest.Works (services : Services σ) (request : DecompileRequest)
    (world start : World σ) (decompiler : Decompiler σ) (output : Path) (binaries : List Path) :
    Prop where
  prepared : request.prepare services world.files = .ok decompiler
  placed : output = world.files.absolute request.output
  opened : makeOutput world.files output = .ok start.files
  started : start = { world with files := start.files }
  target : IsTarget start.files request.input binaries

/-- What a printed search ends with is what the search came to. -/
theorem result_of_printed {run : SearchRun} {json : Bool} {kept : Option Path}
    {summary : RunSummary}
    (h : (if json then printDocument run else printText run kept).result = .ok summary) :
    run.result = .ok summary := by
  cases hresult : run.result with
  | error error => cases json <;> simp [printDocument, printText, hresult] at h
  | ok other =>
    cases json with
    | false => simpa [printText, hresult] using h
    | true =>
      simp only [printDocument, hresult] at h
      cases hdocument : other.toJson? with
      | none => simp [hdocument] at h
      | some document => simpa [hdocument] using h

/-- The find command prints the search that it makes. -/
theorem FindRequest.Works.find_fst [Libraries] {request : FindRequest} {search : Search σ}
    {output : Path}
    (h : request.Works services world start search output binaries) :
    (find services request world).1 =
      if request.json then
        printDocument (search.run request.target request.description output start).1
      else
        printText (search.run request.target request.description output start).1
          request.keepOutput := by
  obtain ⟨scratch, hopened⟩ := h.opened
  simp only [find, h.prepared, hopened, ← h.started]

/-- The summary that a find command prints is about the batch that it worked through. -/
theorem FindRequest.Works.nothingDecompiled_eq [Libraries] {request : FindRequest}
    {search : Search σ} {output : Path} {summary : RunSummary}
    (h : request.Works services world start search output binaries)
    (hresult : (find services request world).1.result = .ok summary) :
    summary.nothingDecompiled =
      (decompileAll search.decompiler binaries output start).1.report.nothingDecompiled := by
  rw [h.find_fst] at hresult
  exact Search.nothingDecompiled_eq h.target (result_of_printed hresult)

/-- The decompile command prints the batch that it worked through. -/
theorem DecompileRequest.Works.decompile_fst {request : DecompileRequest}
    {decompiler : Decompiler σ} {output : Path}
    (h : request.Works services world start decompiler output binaries) :
    (decompile services request world).1 =
      printBatch request.json (decompileAll decompiler binaries output start).2.files output
        (decompileAll decompiler binaries output start).1 := by
  simp only [decompile, h.prepared, ← h.placed, h.opened, ← h.started,
    decompileTarget_of_isTarget h.target]

/-! ## Runs without success -/

/-- **A run without success is reported as a failure exactly if no two of the contents that can be
read are alike.** So a summary says that nothing was decompiled, and so a command that gets as far
as its output ends with a code other than 0. -/
theorem exit_without_success_iff [Libraries] (services : Services σ) (world start : World σ)
    (binaries : List Path) :
    (∀ (search : Search σ) target description output summary,
      IsTarget start.files target binaries →
      Fruitless search.decompiler binaries output start →
      (search.run target description output start).1.result = .ok summary →
      (summary.nothingDecompiled = true ↔ Distinct start.files binaries)) ∧
    (∀ (request : FindRequest) search output,
      request.Works services world start search output binaries →
      Fruitless search.decompiler binaries output start →
      ((perform services (.find request) world).1.code = 0 ↔
        ¬ Distinct start.files binaries ∧
          ∃ summary, (find services request world).1.result = .ok summary)) ∧
    (∀ (request : DecompileRequest) decompiler output,
      request.Works services world start decompiler output binaries →
      Fruitless decompiler binaries output start →
      ((perform services (.decompile request) world).1.code = 0 ↔
        ¬ Distinct start.files binaries ∧
          ∃ text, batchOutput request.json (decompileAll decompiler binaries output start).2.files
            output (decompileAll decompiler binaries output start).1.report = .ok text)) := by
  refine ⟨?_, ?_, ?_⟩
  · intro search target description output summary htarget hfruitless hresult
    rw [Search.nothingDecompiled_eq htarget hresult]
    exact hfruitless.nothingDecompiled_iff
  · intro request search output hworks hfruitless
    rw [code_perform_find_eq_zero_iff, ← hfruitless.nothingDecompiled_iff, Bool.not_eq_true]
    constructor
    · intro ⟨summary, hresult, hnothing⟩
      exact ⟨(hworks.nothingDecompiled_eq hresult).symm.trans hnothing, summary, hresult⟩
    · intro ⟨hnothing, summary, hresult⟩
      exact ⟨summary, hresult, (hworks.nothingDecompiled_eq hresult).trans hnothing⟩
  · intro request decompiler output hworks hfruitless
    change (decompile services request world).1.ending.code = 0 ↔ _
    rw [hworks.decompile_fst, code_ending_printBatch, ← hfruitless.nothingDecompiled_iff,
      Bool.not_eq_true, and_comm]

/-! ## A decompiler that fails -/

/-- A world with a program, a directory with two files, and a directory for temporary files. -/
def twoFiles (first second : Bytes) : World Unit where
  files := ⟨[([Text.bytes "t"], .file [] true), ([Text.bytes "tmp"], .directory),
    ([Text.bytes "in"], .directory),
    ([Text.bytes "in", Text.bytes "a"], .file first false),
    ([Text.bytes "in", Text.bytes "b"], .file second false)], []⟩
  clock := ⟨0⟩
  outside := ()

/-- The outside in which every program ends with the status 1, and no server is there. -/
def failing : Services Unit where
  environment _ := none
  launcher _ world := (.ended ⟨.exited 1, [], []⟩, world)
  transport _ _ world := (.notDelivered, world)

/-- The flags that name the program. -/
def namingProgram : Settings.Overrides where
  headless := some (.ofString "/t")

/-- The program as an analyzer. -/
def failingAnalyzer : Headless where
  program := .ofString "/t"
  limit := some ⟨600000⟩
  analysisTimeout := none
  scratchParent := .ofString "/tmp"

/-- The search in the directory, of which the functions are kept. -/
def findInFolder : FindRequest where
  target := .ofString "/in"
  description := "rc4"
  overrides := namingProgram
  keepOutput := some (.ofString "/out")

/-- The decompilation of the directory. -/
def decompileInFolder : DecompileRequest where
  input := .ofString "/in"
  output := .ofString "/out"
  overrides := namingProgram

/-- The search that this asks for. -/
def failingSearch : Search Unit where
  decompiler := failingAnalyzer.decompiler failing.launcher
  backend := Scoring.Chat.backend {} failing.transport
  retries := 0

/-- The directory for functions, once the search has made it. -/
def started (first second : Bytes) : World Unit :=
  { twoFiles first second with
    files := (twoFiles first second).files.put [Text.bytes "out"] .directory }

/-- The files of the directory. -/
def pair : List Path := [.ofString "/in/a", .ofString "/in/b"]

theorem isTarget_pair (first second : Bytes) :
    IsTarget (started first second).files (.ofString "/in") pair := by
  have hlist : (started first second).files.list (.ofString "/in") =
      .ok [(Text.bytes "a", .file first false), (Text.bytes "b", .file second false)] := by
    rfl
  have hdirectory : (started first second).files.isDirectory (.ofString "/in") = true := by
    rfl
  have hsorted : [Text.bytes "a", Text.bytes "b"].Pairwise
      fun a b => (!decide (b < a)) = true := by
    decide +kernel
  have hpaths : [Text.bytes "a", Text.bytes "b"].map (Path.ofString "/in").child = pair := by
    decide +kernel
  rw [IsTarget, if_pos hdirectory, filesOf_of_pairwise hlist hsorted]
  exact congrArg Except.ok hpaths

theorem works_find (first second : Bytes) :
    findInFolder.Works failing (twoFiles first second) (started first second) failingSearch
      (.ofString "/out") pair where
  prepared := rfl
  opened := ⟨none, rfl⟩
  started := rfl
  vacant := rfl
  target := isTarget_pair first second

theorem works_decompile (first second : Bytes) :
    decompileInFolder.Works failing (twoFiles first second) (started first second)
      failingSearch.decompiler (.ofString "/out") pair where
  prepared := rfl
  placed := rfl
  opened := rfl
  started := rfl
  target := isTarget_pair first second

theorem fruitless_pair (second : Bytes) (h : second = [0] ∨ second = [1]) :
    Fruitless failingSearch.decompiler pair (.ofString "/out") (started [0] second) := by
  obtain rfl | rfl := h
  · exact ⟨by decide +kernel, by decide +kernel⟩
  · exact ⟨by decide +kernel, by decide +kernel⟩

/-- Two binaries of different contents with which the decompiler fails. -/
theorem exit_without_success_iff_different :
    Distinct (started [0] [1]).files pair ∧
    (∀ description summary,
      (failingSearch.run (.ofString "/in") description (.ofString "/out")
        (started [0] [1])).1.result = .ok summary → summary.nothingDecompiled = true) ∧
    (perform failing (.find findInFolder) (twoFiles [0] [1])).1.code ≠ 0 ∧
    (perform failing (.decompile decompileInFolder) (twoFiles [0] [1])).1.code ≠ 0 := by
  have hdistinct : Distinct (started [0] [1]).files pair := by
    decide +kernel
  have hfruitless := fruitless_pair [1] (.inr rfl)
  obtain ⟨hrun, hfind, hdecompile⟩ :=
    exit_without_success_iff failing (twoFiles [0] [1]) (started [0] [1]) pair
  refine ⟨hdistinct, ?_, ?_, ?_⟩
  · intro description summary hresult
    exact (hrun failingSearch (.ofString "/in") description (.ofString "/out") summary
      (isTarget_pair [0] [1]) hfruitless hresult).mpr hdistinct
  · intro hcode
    exact ((hfind findInFolder _ _ (works_find [0] [1]) hfruitless).mp hcode).1 hdistinct
  · intro hcode
    exact ((hdecompile decompileInFolder _ _ (works_decompile [0] [1]) hfruitless).mp hcode).1
      hdistinct

/-- **A run without success ends well if one of its binaries is a copy of another.** The decompiler
fails with the first file, and the second is passed over as a copy of it. -/
theorem success_of_failed_copies :
    Fruitless failingSearch.decompiler pair (.ofString "/out") (started [0] [0]) ∧
    (∃ summary,
      (failingSearch.run (.ofString "/in") "rc4" (.ofString "/out") (started [0] [0])).1.result =
        .ok summary ∧ summary.nothingDecompiled = false) ∧
    (perform failing (.find findInFolder) (twoFiles [0] [0])).1.code = 0 ∧
    (perform failing (.decompile decompileInFolder) (twoFiles [0] [0])).1.code = 0 := by
  have hfruitless := fruitless_pair [0] (.inl rfl)
  have hcommon : ¬ Distinct (started [0] [0]).files pair := by
    decide +kernel
  have hnothing : ∀ summary, (failingSearch.run (.ofString "/in") "rc4" (.ofString "/out")
      (started [0] [0])).1.result = .ok summary → summary.nothingDecompiled = false := by
    intro summary hresult
    rw [Search.nothingDecompiled_eq (isTarget_pair [0] [0]) hresult, ← Bool.not_eq_true,
      hfruitless.nothingDecompiled_iff]
    exact hcommon
  have hload : Search.loadOutput (decompileAll failingSearch.decompiler pair (.ofString "/out")
      (started [0] [0])).2.files (.ofString "/out") = .ok ⟨[], []⟩ := by
    decide +kernel
  have hvacant : Search.checkOutput (started [0] [0]).files (.ofString "/out") = .ok () := by
    rfl
  obtain ⟨summary, hsummary⟩ : ∃ summary, (failingSearch.run (.ofString "/in") "rc4"
      (.ofString "/out") (started [0] [0])).1.result = .ok summary := by
    rw [Search.run_of_isTarget hvacant (isTarget_pair [0] [0])]
    exact Search.exists_summary_of_loadOutput hload
  refine ⟨hfruitless, ⟨summary, hsummary, hnothing summary hsummary⟩, ?_, ?_⟩
  · have hresult : (failingSearch.run findInFolder.target findInFolder.description
        (.ofString "/out") (started [0] [0])).1.result = .ok summary := hsummary
    rw [code_perform_find_eq_zero_iff, (works_find [0] [0]).find_fst, if_neg (by decide)]
    refine ⟨summary, ?_, hnothing summary hsummary⟩
    simp only [printText, hresult]
  · change (decompile failing decompileInFolder (twoFiles [0] [0])).1.ending.code = 0
    rw [(works_decompile [0] [0]).decompile_fst]
    decide +kernel

end CommandLine

end FunctionSearch
