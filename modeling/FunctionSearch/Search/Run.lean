import FunctionSearch.Search.Summary
import FunctionSearch.Timestamp

/-!
# Searches

A search decompiles a target into an output directory and then scores every function it finds there.

* `Search`: the decompiler and the model;
* `SearchError`: why a search came to no end;
* `Search.keep`: the functions that do not belong to failed binaries;
* `Search.scoreRecords`: the part of a search that begins once the functions are chosen;
* `Search.run`: the whole search, with the steps and the tables on the way.

Every artifact in the output directory is scored, so the directory must be empty or not there at
all. Functions of a binary that failed are not scored.
-/

namespace FunctionSearch

/-- Why a search came to no end. -/
inductive SearchError where
  | decompile (error : DecompileError)
  | outputNotEmpty (path : Path)
  | artifacts (path : Path) (cause : IoError)
  deriving DecidableEq, Repr

namespace SearchError

/-- The word for a failure. -/
def kind : SearchError → String
  | .decompile error => error.kind
  | .outputNotEmpty _ => "output_not_empty"
  | .artifacts .. => "artifacts"

/-- The text of a failure. -/
def message : SearchError → String
  | .decompile error => error.message
  | .outputNotEmpty path =>
    s!"Output directory {path.display} is not empty; use an empty or new directory"
  | .artifacts path cause =>
    s!"Failed to read decompiled functions in {path.display}: {cause.message}"

/-- The texts of the failures behind a failure, the nearest first. -/
def causes : SearchError → List String
  | .decompile error => error.causes
  | .outputNotEmpty _ => []
  | .artifacts _ cause => [cause.message]

end SearchError

/-- A decompiler and a model that are ready to work. -/
structure Search (σ : Type) where
  decompiler : Decompiler σ
  backend : Scoring.Backend (World σ)
  /-- How often an answer that cannot be read is asked for again. -/
  retries : Nat

/-- What a search shows on its way, and what it ends with. -/
structure SearchRun where
  progress : List Batch.Step
  published : List Ranking.Table
  result : Except SearchError RunSummary

namespace Search

/-! ## Output directories -/

/-- Refuse an output directory with anything in it. -/
def checkOutput (tree : FileTree) (output : Path) : Except SearchError Unit :=
  match tree.list output with
  | .ok [] => .ok ()
  | .ok _ => .error (.outputNotEmpty output)
  | .error cause => if cause = .notFound then .ok () else .error (.artifacts output cause)

/-- The corpus in an output directory, empty if there is no such directory. -/
def loadOutput (tree : FileTree) (output : Path) : Except SearchError Artifact.Corpus :=
  if tree.isDirectory output then
    (Artifact.Corpus.load tree output).mapError (.artifacts output)
  else .ok ⟨[], []⟩

/-! ## Failed binaries -/

/-- The name that a binary has in the names of its artifacts. -/
def programName? (binary : Path) : Option String :=
  binary.fileName?.map fun name => Artifact.sanitize (Text.lossy name)

/-- The functions that do not belong to a failed binary. -/
def keep (failed : List FailedBinary) (records : List FunctionRecord) : List FunctionRecord :=
  let programs := failed.filterMap fun item => programName? item.binary
  records.filter fun record => !programs.contains record.binary

/-! ## Runs -/

variable {σ : Type}

/-- The summary of a search. -/
def summarize (target : Path) (description : String) (batch : BatchReport)
    (corpus : Artifact.Corpus) (kept : List FunctionRecord) (scoring : Scoring.Report)
    (finished : Duration) : RunSummary where
  description := description
  target := target
  binariesTotal := batch.total
  binariesDecompiled := batch.succeeded
  binariesDuplicate := batch.duplicates
  binariesFailed := batch.binaries.filterMap FailedBinary.ofReport?
  functionsLoaded := kept.length
  partialDiscarded := corpus.records.length - kept.length
  malformedArtifacts := corpus.malformed
  scored := scoring.ranking.results.length
  skippedUnparseable := scoring.unparseable
  failedInference := scoring.failedInference
  scoreFailures := scoring.failures
  ranking := scoring.ranking.table
  finishedAt := timestamp finished

/-- Score these functions, which a batch left in the output directory. -/
def scoreRecords (search : Search σ) (target : Path) (description : String) (batch : Batch.Run)
    (corpus : Artifact.Corpus) (records : List FunctionRecord) (world : World σ) :
    SearchRun × World σ :=
  let (scoring, world) :=
    Scoring.scoreAll search.backend search.retries description records world
  let summary := summarize target description batch.report corpus records scoring world.clock
  (⟨batch.progress, scoring.published, .ok summary⟩, world)

/-- Score the functions that a batch left in the output directory, less those of failed binaries. -/
def scoreOutput (search : Search σ) (target : Path) (description : String) (output : Path)
    (batch : Batch.Run) (world : World σ) : SearchRun × World σ :=
  match loadOutput world.files output with
  | .error error => (⟨batch.progress, [], .error error⟩, world)
  | .ok corpus =>
    let failed := batch.report.binaries.filterMap FailedBinary.ofReport?
    search.scoreRecords target description batch corpus (keep failed corpus.records) world

/-- Decompile a target into an output directory and score its functions against a description. -/
def run (search : Search σ) (target : Path) (description : String) (output : Path)
    (world : World σ) : SearchRun × World σ :=
  match checkOutput world.files output with
  | .error error => (⟨[], [], .error error⟩, world)
  | .ok () =>
    match Batch.decompileTarget search.decompiler target output world with
    | (.error error, world) => (⟨[], [], .error (.decompile error)⟩, world)
    | (.ok batch, world) => search.scoreOutput target description output batch world

end Search

end FunctionSearch
