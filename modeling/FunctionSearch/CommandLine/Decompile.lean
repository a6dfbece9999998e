import FunctionSearch.CommandLine.Basic
import FunctionSearch.Json.Printer

/-!
# The decompile command

Decompile a target into a directory without scoring anything.

* `DecompileRequest`: what is asked for;
* `batchText`: the report for people;
* `decompile`: the command, which fails if there were binaries and nothing came of any of them.
-/

namespace FunctionSearch.CommandLine

/-- A decompilation as it is asked for. -/
structure DecompileRequest where
  input : Path
  output : Path
  config : Option Path := none
  overrides : Settings.Overrides := {}
  /-- Whether the report is printed as a document, in place of text. -/
  json : Bool := false
  deriving DecidableEq, Repr

/-! ## Output -/

/-- The line of a failed binary. -/
def failureLine (report : BinaryReport) : String :=
  s!"  Failed: {report.binary.display} ({report.outcome.describe})\n"

/-- The report for people on a batch that left `functions` functions in the directory `output`. -/
def batchText (report : BatchReport) (functions : Nat) (output : Path) : String :=
  s!"Decompiled {report.succeeded} of {report.total} binaries\n" ++
    (if report.duplicates = 0 then "" else s!"  Duplicates skipped: {report.duplicates}\n") ++
    String.join (report.failures.map failureLine) ++
    s!"  Functions on disk: {functions}\n" ++
    s!"  Output: {output.display}\n"

/-- The report as a document. -/
def batchDocument? (report : BatchReport) : Option String := do
  return (Json.array (← report.binaries.mapM BinaryReport.toJson?)).pretty ++ "\n"

/-- The report as it is printed. -/
def batchOutput (json : Bool) (tree : FileTree) (output : Path) (report : BatchReport) :
    Except CommandError String :=
  if json then
    match batchDocument? report with
    | some text => .ok text
    | none => .error .unwritableReport
  else
    match Artifact.Corpus.load tree output with
    | .ok corpus => .ok (batchText report corpus.records.length output)
    | .error cause => .error (.artifacts output cause)

/-- What a batch prints. -/
def printBatch (json : Bool) (tree : FileTree) (output : Path) (run : Batch.Run) : Printed Unit :=
  match batchOutput json tree output run.report with
  | .error error => ⟨"", run.progress, .error error⟩
  | .ok text =>
    ⟨text, run.progress,
      if run.report.nothingDecompiled then .error .nothingDecompiled else .ok ()⟩

/-! ## The command -/

variable {σ : Type}

/-- The decompiler for a request. -/
def DecompileRequest.prepare (services : Services σ) (request : DecompileRequest)
    (tree : FileTree) : Except CommandError (Decompiler σ) := do
  let settings ← settingsOf services tree request.config request.overrides
  decompilerOf services tree settings

/-- Decompile without scoring. -/
def decompile (services : Services σ) (request : DecompileRequest) (world : World σ) :
    Printed Unit × World σ :=
  match request.prepare services world.files with
  | .error error => (.failure error, world)
  | .ok decompiler =>
    let output := world.files.absolute request.output
    match makeOutput world.files output with
    | .error error => (.failure error, world)
    | .ok files =>
      match Batch.decompileTarget decompiler request.input output { world with files } with
      | (.error error, world) => (.failure (.decompile error), world)
      | (.ok run, world) => (printBatch request.json world.files output run, world)

end FunctionSearch.CommandLine
