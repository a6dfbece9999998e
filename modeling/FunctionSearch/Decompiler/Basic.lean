import FunctionSearch.Decompiler.Error
import FunctionSearch.Json.Basic
import FunctionSearch.World

/-!
# Decompilers

Whatever turns a binary into one file for each of its functions.

* `DecompileReport`: what a binary gave;
* `Decompiler`: a machine that is given a binary and an output directory.
-/

namespace FunctionSearch

/-- What a binary gave. -/
structure DecompileReport where
  binary : Path
  /-- The digest of the content, in hexadecimal digits. -/
  digest : String
  /-- The number of new artifacts that belong to the binary. -/
  functions : Nat
  elapsed : Duration
  deriving DecidableEq, Repr

/-- A path in a document, where every path has to be text. -/
def Json.path? (path : Path) : Option Json :=
  path.text?.map .text

/-- A report as a document. -/
def DecompileReport.toJson? (report : DecompileReport) : Option Json := do
  return .record [("binary_path", ← Json.path? report.binary), ("binary_hash", .text report.digest),
    ("functions", .natural report.functions), ("elapsed", .number report.elapsed.secondsText)]

/-- A machine that decompiles a binary into an output directory. -/
structure Decompiler (σ : Type) where
  name : String
  decompile (binary output : Path) (world : World σ) :
    Except DecompileError DecompileReport × World σ

end FunctionSearch
