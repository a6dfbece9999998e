import FunctionSearch.Search.Run
import FunctionSearch.Settings.Resolve
import FunctionSearch.Text.Lines

/-!
# Failures of commands

Why a command ends without success.

* `CommandError`: the reasons, with `CommandError.message` and `CommandError.causes`;
* `CommandError.report`: the text in which a failure is told, with its causes behind it, indented,
  and numbered if there are several.
-/

namespace FunctionSearch

/-- Why a command ends without success. -/
inductive CommandError where
  | blankDescription
  | settings (error : Settings.ResolveError)
  | analyzer (error : DecompileError)
  | model (error : Scoring.InferenceError)
  | outputDirectory (path : Path) (cause : IoError)
  | scratchDirectory (cause : IoError)
  | search (error : SearchError)
  | decompile (error : DecompileError)
  | artifacts (path : Path) (cause : IoError)
  | script (path : Path) (error : DecompileError)
  /-- A summary names a path that is no text. -/
  | unwritableSummary
  /-- A report names a path that is no text. -/
  | unwritableReport
  | nothingDecompiled
  deriving DecidableEq, Repr

namespace CommandError

/-- Why a document cannot be written. -/
def unwritableCause : String := "path contains invalid UTF-8 characters"

/-- The text of a failure. -/
def message : CommandError → String
  | .blankDescription => "--find must describe what to look for"
  | .settings error => error.message
  | .analyzer _ => "Ghidra headless analyzer is not available"
  | .model _ => "Failed to set up the model backend"
  | .outputDirectory path _ => s!"Failed to create output dir {path.display}"
  | .scratchDirectory _ => "Failed to create scratch output dir"
  | .search error => error.message
  | .decompile error => error.message
  | .artifacts path _ => s!"Failed to read artifacts in {path.display}"
  | .script path _ => s!"Failed to render script for {path.display}"
  | .unwritableSummary => "Failed to serialize run summary"
  | .unwritableReport => "Failed to serialize decompile report"
  | .nothingDecompiled => "no binary could be decompiled"

/-- The texts of the failures behind a failure, the nearest first. -/
def causes : CommandError → List String
  | .settings error => error.causes
  | .analyzer error => error.message :: error.causes
  | .model error => [error.message]
  | .outputDirectory _ cause => [cause.message]
  | .scratchDirectory cause => [cause.message]
  | .search error => error.causes
  | .decompile error => error.causes
  | .artifacts _ cause => [cause.message]
  | .script _ error => error.message :: error.causes
  | .unwritableSummary => [unwritableCause]
  | .unwritableReport => [unwritableCause]
  | .blankDescription => []
  | .nothingDecompiled => []

/-! ## Reports -/

/-- A text whose first line follows `first` and whose other lines follow `others`. -/
def indent (first others : String) (text : String) : String :=
  match Text.splitWhere (· == '\n') text.toList with
  | [] => first
  | line :: lines =>
    String.ofList ((first.toList ++ line) ++ lines.flatMap fun l => '\n' :: others.toList ++ l)

/-- A cause with its number. -/
def numbered (i : Nat) (cause : String) : String :=
  let digits := Number.numeral i
  indent (String.ofList (List.replicate (5 - digits.length) ' ' ++ digits ++ [':', ' '])) "       "
    cause

/-- The lines of the causes. -/
def causeLines : List String → List String
  | [cause] => [indent "    " "    " cause]
  | causes => causes.zipIdx.map fun (cause, i) => numbered i cause

/-- The text in which a failure is told. -/
def report (error : CommandError) : String :=
  s!"Error: {error.message}\n" ++
    if error.causes.isEmpty then ""
    else "\nCaused by:\n" ++ String.join ((causeLines error.causes).map (· ++ "\n"))

end CommandError

end FunctionSearch
