import FunctionSearch.CommandLine.Basic
import FunctionSearch.Json.Printer
import FunctionSearch.Ranking.Drawing

/-!
# The find command

Decompile a target and rank its functions against a description.

* `FindRequest`: what is asked for;
* `FindRequest.prepare`: everything that can be refused before any work starts;
* `summaryText`: the summary for people;
* `find`: the command.

The functions are kept in a directory if one is named, and else in a scratch directory that is gone
afterwards, whatever happens.
-/

namespace FunctionSearch.CommandLine

/-- A search as it is asked for. -/
structure FindRequest where
  target : Path
  description : String
  config : Option Path := none
  overrides : Settings.Overrides := {}
  /-- Whether the summary is printed as a document, in place of tables and text. -/
  json : Bool := false
  keepOutput : Option Path := none
  deriving DecidableEq, Repr

/-! ## Output -/

/-- A line of text if a number is not zero. -/
def lineUnlessZero (n : Nat) (line : String) : String :=
  if n = 0 then "" else line

/-- The line of a failed binary. -/
def failedLine (failed : FailedBinary) : String :=
  s!"  - {failed.binary.display} [{failed.kind}] {failed.error}\n"

/-- The summary for people; `kept` is the directory with the functions, if they are kept. -/
def summaryText (summary : RunSummary) (kept : Option Path) : String :=
  s!"\nBinaries: {summary.binariesDecompiled} decompiled, " ++
    s!"{summary.binariesDuplicate} duplicate, {summary.binariesFailed.length} failed " ++
    s!"(of {summary.binariesTotal})\n" ++
    String.join (summary.binariesFailed.map failedLine) ++
    s!"Functions: {summary.scored} scored, {summary.skippedUnparseable} unparseable, " ++
    s!"{summary.failedInference} inference failures\n" ++
    lineUnlessZero summary.malformedArtifacts.length
      s!"Ignored {summary.malformedArtifacts.length} malformed artifact(s)\n" ++
    lineUnlessZero summary.partialDiscarded
      s!"Ignored {summary.partialDiscarded} artifact(s) from failed binaries\n" ++
    match kept with
    | some directory => s!"Decompiled functions kept in {directory.display}\n"
    | none => ""

/-- What a search prints as a document. -/
def printDocument (run : SearchRun) : Printed RunSummary :=
  match run.result with
  | .error error => ⟨"", run.progress, .error (.search error)⟩
  | .ok summary =>
    match summary.toJson? with
    | some document => ⟨document.pretty ++ "\n", run.progress, .ok summary⟩
    | none => ⟨"", run.progress, .error .unwritableSummary⟩

/-- What a search prints for people: the tables as they came, and the summary. -/
def printText (run : SearchRun) (kept : Option Path) : Printed RunSummary :=
  let tables := String.join (run.published.map (Ranking.Drawing.draw · true))
  match run.result with
  | .error error => ⟨tables, run.progress, .error (.search error)⟩
  | .ok summary => ⟨tables ++ summaryText summary kept, run.progress, .ok summary⟩

/-! ## Preparation -/

variable [Libraries] {σ : Type}

/-- The search for a request. -/
def FindRequest.prepare (services : Services σ) (request : FindRequest) (tree : FileTree) :
    Except CommandError (Search σ) :=
  if Text.hasContent request.description.toList then do
    let settings ← settingsOf services tree request.config request.overrides
    searchOf services tree settings
  else .error .blankDescription

/-- A directory for functions. -/
structure FunctionStore where
  path : Path
  /-- The scratch directory that it is, unless the functions are kept. -/
  scratch : Option Scratch
  deriving DecidableEq, Repr

/-- The start of the names of scratch directories. -/
def scratchStem : String := "monocle-decoms-"

/-- The directory for functions of a request. -/
def openStore (environment : Environment) (tree : FileTree) :
    (keep : Option Path) → Except CommandError (FunctionStore × FileTree)
  | some directory => do
    let path := tree.absolute directory
    return (⟨path, none⟩, ← makeOutput tree path)
  | none =>
    match Scratch.create tree (temporaryDirectory environment) scratchStem with
    | .ok (scratch, tree) => .ok (⟨scratch.path, some scratch⟩, tree)
    | .error cause => .error (.scratchDirectory cause)

/-- The tree without a directory for functions that is not kept. -/
def FunctionStore.close (store : FunctionStore) (tree : FileTree) : FileTree :=
  match store.scratch with
  | some scratch => scratch.discard tree
  | none => tree

/-! ## The command -/

/-- Decompile, score and rank. -/
def find (services : Services σ) (request : FindRequest) (world : World σ) :
    Printed RunSummary × World σ :=
  match request.prepare services world.files with
  | .error error => (.failure error, world)
  | .ok search =>
    match openStore services.environment world.files request.keepOutput with
    | .error error => (.failure error, world)
    | .ok (store, files) =>
      let (run, world) :=
        search.run request.target request.description store.path { world with files }
      let printed :=
        if request.json then printDocument run else printText run request.keepOutput
      (printed, { world with files := store.close world.files })

end FunctionSearch.CommandLine
