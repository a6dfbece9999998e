import FunctionSearch.Decompiler.Basic
import FunctionSearch.Digest.Sha256

/-!
# Batches

Many binaries, of which each content is decompiled once.

* `BinaryOutcome`: what became of one binary;
* `Batch.assign`: the outcomes that are known before any work starts, of binaries that cannot be
  read and of those with the content of an earlier one;
* `Batch.Run` and `Batch.decompileAll`: what became of every binary, in the order of the list, and
  the steps in which it became known;
* `Batch.decompileFolder` and `Batch.decompileTarget`: the same for the files of a directory, and
  for a path that leads to a file or a directory.

A binary that fails changes nothing for the others. How many binaries are worked on at a time is no
part of the answer, since the outcomes are put in the order of the list.
-/

namespace FunctionSearch

/-- What became of a binary. -/
inductive BinaryOutcome where
  | decompiled (report : DecompileReport)
  /-- The content is that of an earlier binary. -/
  | duplicate (first : Path)
  | failed (error : DecompileError)
  deriving DecidableEq, Repr

namespace BinaryOutcome

/-- Whether a binary was decompiled. -/
def isDecompiled : BinaryOutcome → Bool
  | .decompiled _ => true
  | _ => false

/-- Whether a binary was passed over. -/
def isDuplicate : BinaryOutcome → Bool
  | .duplicate _ => true
  | _ => false

/-- Whether a binary failed. -/
def isFailure : BinaryOutcome → Bool
  | .failed _ => true
  | _ => false

/-- An outcome in a few words. -/
def describe : BinaryOutcome → String
  | .decompiled report => s!"{report.functions} functions"
  | .duplicate first => s!"duplicate of {first.display}"
  | .failed error => s!"failed: {error.message}"

end BinaryOutcome

/-- A binary with what became of it. -/
structure BinaryReport where
  binary : Path
  outcome : BinaryOutcome
  deriving DecidableEq, Repr

/-- An outcome as fields of a document. -/
def BinaryOutcome.fields : BinaryOutcome → List (String × Json)
  | .decompiled report =>
    [("status", .text "decompiled"), ("functions", .natural report.functions)]
  | .duplicate _ => [("status", .text "duplicate")]
  | .failed error => [("status", .text "failed"), ("error", .text error.message)]

/-- A report as a document. -/
def BinaryReport.toJson? (report : BinaryReport) : Option Json := do
  return .record (("binary", ← Json.path? report.binary) :: report.outcome.fields)

/-- What became of every binary of a batch, in order. -/
structure BatchReport where
  binaries : List BinaryReport
  deriving DecidableEq, Repr

namespace BatchReport

/-- The number of binaries. -/
def total (report : BatchReport) : Nat :=
  report.binaries.length

/-- The number of binaries that were decompiled. -/
def succeeded (report : BatchReport) : Nat :=
  report.binaries.countP (·.outcome.isDecompiled)

/-- The number of binaries that were passed over. -/
def duplicates (report : BatchReport) : Nat :=
  report.binaries.countP (·.outcome.isDuplicate)

/-- The binaries that failed. -/
def failures (report : BatchReport) : List BinaryReport :=
  report.binaries.filter (·.outcome.isFailure)

/-- Whether there were binaries and nothing came of any of them. -/
def nothingDecompiled (report : BatchReport) : Bool :=
  0 < report.total && report.succeeded == 0 && report.duplicates == 0

end BatchReport

namespace Batch

/-! ## Assignment -/

/-- The outcomes that are known beforehand, `seen` being the contents so far with their first
binaries; a binary without such an outcome is to be decompiled. -/
def assignFrom (tree : FileTree) (seen : List (String × Path)) :
    List Path → List (Path × Option BinaryOutcome)
  | [] => []
  | binary :: rest =>
    match tree.read binary with
    | .error cause => (binary, some (.failed (.io binary cause))) :: assignFrom tree seen rest
    | .ok content =>
      let digest := Digest.Sha256.hex content
      match seen.lookup digest with
      | some first => (binary, some (.duplicate first)) :: assignFrom tree seen rest
      | none => (binary, none) :: assignFrom tree ((digest, binary) :: seen) rest

/-- The binaries with the outcomes that are known beforehand. -/
def assign (tree : FileTree) (binaries : List Path) : List (Path × Option BinaryOutcome) :=
  assignFrom tree [] binaries

/-! ## Work -/

variable {σ : Type}

/-- The outcome of a decompilation. -/
def outcomeOf : Except DecompileError DecompileReport → BinaryOutcome
  | .ok report => .decompiled report
  | .error error => .failed error

/-- Decompile one binary. -/
def decompileOne (decompiler : Decompiler σ) (output binary : Path) (world : World σ) :
    BinaryReport × World σ :=
  let (result, world) := decompiler.decompile binary output world
  (⟨binary, outcomeOf result⟩, world)

/-- Decompile the binaries that have no outcome yet. -/
def settle (decompiler : Decompiler σ) (output : Path) :
    List (Path × Option BinaryOutcome) → World σ → List BinaryReport × World σ
  | [], world => ([], world)
  | (binary, some outcome) :: rest, world =>
    let (reports, world) := settle decompiler output rest world
    (⟨binary, outcome⟩ :: reports, world)
  | (binary, none) :: rest, world =>
    let (report, world) := decompileOne decompiler output binary world
    let (reports, world) := settle decompiler output rest world
    (report :: reports, world)

/-! ## Progress -/

/-- A binary whose outcome has become known, as the last of `completed` ones among `total`. -/
structure Step where
  completed : Nat
  total : Nat
  report : BinaryReport
  deriving DecidableEq, Repr

/-- The line for a step. -/
def Step.line (step : Step) : String :=
  s!"[{step.completed}/{step.total}] {step.report.binary.display}: {step.report.outcome.describe}\n"

/-- The reports in the order in which they become known: first those that are known beforehand. -/
def inOrderOfArrival (items : List (Path × Option BinaryOutcome)) (reports : List BinaryReport) :
    List BinaryReport :=
  let paired := items.zip reports
  ((paired.filter (·.1.2.isSome)) ++ (paired.filter (·.1.2.isNone))).map (·.2)

/-- The steps in which these reports become known. -/
def steps (arrivals : List BinaryReport) : List Step :=
  (arrivals.zipIdx 1).map fun (report, i) => ⟨i, arrivals.length, report⟩

/-- A batch that is done. -/
structure Run where
  report : BatchReport
  progress : List Step
  deriving DecidableEq, Repr

/-- Decompile these binaries, each content once. -/
def decompileAll (decompiler : Decompiler σ) (binaries : List Path) (output : Path)
    (world : World σ) : Run × World σ :=
  let items := assign world.files binaries
  let (reports, world) := settle decompiler output items world
  (⟨⟨reports⟩, steps (inOrderOfArrival items reports)⟩, world)

/-! ## Targets -/

/-- Whether an entry of a directory is a file itself, not a link to one. -/
def isPlainFile : Entry → Bool
  | .file .. => true
  | _ => false

/-- The files directly in a directory, in the order of their names. -/
def filesOf (tree : FileTree) (folder : Path) : Except DecompileError (List Path) :=
  match tree.list folder with
  | .error cause => .error (.io folder cause)
  | .ok entries =>
    let names := (entries.filter (isPlainFile ·.2)).map (·.1)
    .ok ((names.mergeSort fun a b => !decide (b < a)).map folder.child)

/-- Decompile the files directly in a directory. -/
def decompileFolder (decompiler : Decompiler σ) (folder output : Path) (world : World σ) :
    Except DecompileError Run × World σ :=
  match filesOf world.files folder with
  | .error error => (.error error, world)
  | .ok binaries =>
    let (run, world) := decompileAll decompiler binaries output world
    (.ok run, world)

/-- Decompile a binary, or the files directly in a directory. -/
def decompileTarget (decompiler : Decompiler σ) (target output : Path) (world : World σ) :
    Except DecompileError Run × World σ :=
  if world.files.isDirectory target then decompileFolder decompiler target output world
  else if world.files.isFile target then
    let (run, world) := decompileAll decompiler [target] output world
    (.ok run, world)
  else (.error (.missingBinary target), world)

end Batch

end FunctionSearch
