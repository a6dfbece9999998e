import FunctionSearch.Decompiler.Batch
import FunctionSearch.Ranking.Records
import FunctionSearch.Scoring.Engine

/-!
# Run summaries

The books of a search.

* `FailedBinary`: a binary that could not be decompiled;
* `RunSummary`: what came of every binary, every artifact and every function;
* `RunSummary.toJson?`: the summary as a document, in which every path has to be text.
-/

namespace FunctionSearch

/-- A binary that could not be decompiled. -/
structure FailedBinary where
  binary : Path
  kind : String
  error : String
  deriving DecidableEq, Repr

/-- The failure in a report, if there is one. -/
def FailedBinary.ofReport? (report : BinaryReport) : Option FailedBinary :=
  match report.outcome with
  | .failed error => some ⟨report.binary, error.kind, error.message⟩
  | _ => none

/-- What a search did, and what it had to leave out. -/
structure RunSummary where
  description : String
  target : Path
  binariesTotal : Nat
  binariesDecompiled : Nat
  binariesDuplicate : Nat
  binariesFailed : List FailedBinary
  functionsLoaded : Nat
  /-- The number of functions of failed binaries, which are not scored. -/
  partialDiscarded : Nat
  malformedArtifacts : List Artifact.Malformed
  scored : Nat
  skippedUnparseable : Nat
  failedInference : Nat
  scoreFailures : List Scoring.ScoreFailure
  ranking : Ranking.Table
  finishedAt : String
  deriving DecidableEq, Repr

/-- Whether there were binaries and nothing came of any of them. -/
def RunSummary.nothingDecompiled (summary : RunSummary) : Bool :=
  0 < summary.binariesTotal && summary.binariesDecompiled == 0 && summary.binariesDuplicate == 0

/-! ## Writing -/

/-- A failed binary as a document. -/
def FailedBinary.toJson? (failed : FailedBinary) : Option Json := do
  return .record [("binary", ← Json.path? failed.binary), ("kind", .text failed.kind),
    ("error", .text failed.error)]

/-- A file that is no artifact as a document. -/
def Artifact.Malformed.toJson? (file : Artifact.Malformed) : Option Json := do
  return .record [("path", ← Json.path? file.path), ("reason", .text file.reason)]

/-- A function without a score as a document. -/
def Scoring.ScoreFailure.toJson (failure : Scoring.ScoreFailure) : Json :=
  .record [("binary_name", .text failure.binary), ("function_name", .text failure.function),
    ("kind", .text failure.kind), ("error", .text failure.error)]

/-- A summary as a document. -/
def RunSummary.toJson? (summary : RunSummary) : Option Json := do
  return .record [("description", .text summary.description),
    ("target", ← Json.path? summary.target),
    ("binaries_total", .natural summary.binariesTotal),
    ("binaries_decompiled", .natural summary.binariesDecompiled),
    ("binaries_duplicate", .natural summary.binariesDuplicate),
    ("binaries_failed", .array (← summary.binariesFailed.mapM FailedBinary.toJson?)),
    ("functions_loaded", .natural summary.functionsLoaded),
    ("partial_discarded", .natural summary.partialDiscarded),
    ("malformed_artifacts",
      .array (← summary.malformedArtifacts.mapM Artifact.Malformed.toJson?)),
    ("scored", .natural summary.scored),
    ("skipped_unparseable", .natural summary.skippedUnparseable),
    ("failed_inference", .natural summary.failedInference),
    ("score_failures", .array (summary.scoreFailures.map Scoring.ScoreFailure.toJson)),
    ("ranking", summary.ranking.toJson),
    ("finished_at", .text summary.finishedAt)]

end FunctionSearch
