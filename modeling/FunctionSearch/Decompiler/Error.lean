import FunctionSearch.Duration
import FunctionSearch.Files.Error

/-!
# Decompiler failures

* `DecompileError`: why a binary gave no functions;
* `DecompileError.kind`: a word for it that programs can rely on;
* `DecompileError.message`: its text.
-/

namespace FunctionSearch

/-- Why a binary gave no functions. -/
inductive DecompileError where
  | toolNotFound (text : String)
  | missingBinary (path : Path)
  | io (path : Path) (cause : IoError)
  | notUtf8 (path : Path)
  | script (text : String)
  | spawn (text : String)
  | failed (status stderrTail : String)
  | timeout (limit : Duration)
  | noOutput (program : String)
  deriving DecidableEq, Repr

namespace DecompileError

/-- The word for a failure. -/
def kind : DecompileError → String
  | .toolNotFound _ => "tool_not_found"
  | .missingBinary _ => "missing_binary"
  | .io .. => "io"
  | .notUtf8 _ => "io"
  | .script _ => "script"
  | .spawn _ => "spawn"
  | .failed .. => "failed"
  | .timeout _ => "timeout"
  | .noOutput _ => "no_output"

/-- The text of a failure. -/
def message : DecompileError → String
  | .toolNotFound text => s!"analyzeHeadless not found: {text}"
  | .missingBinary path => s!"Binary not found at {path.display}"
  | .io path cause => s!"I/O error on {path.display}: {cause.message}"
  | .notUtf8 path => s!"Path is not valid UTF-8: {path.display}"
  | .script text => s!"Failed to render export script: {text}"
  | .spawn text => s!"failed to spawn decompiler: {text}"
  | .failed status stderrTail => s!"decompiler exited with {status}: {stderrTail}"
  | .timeout limit => s!"decompiler timed out after {limit.wholeSeconds}s"
  | .noOutput program => s!"decompiler succeeded but wrote no functions for {program}"

/-- The texts of the failures behind a failure, the nearest first. -/
def causes : DecompileError → List String
  | .io _ cause => [cause.message]
  | _ => []

end DecompileError

end FunctionSearch
