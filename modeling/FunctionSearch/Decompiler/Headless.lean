import FunctionSearch.Artifact.Corpus
import FunctionSearch.Decompiler.Basic
import FunctionSearch.Decompiler.Locate
import FunctionSearch.Digest.Sha256
import FunctionSearch.Export.Script
import FunctionSearch.External.Program
import FunctionSearch.Files.Scratch
import FunctionSearch.Settings.Basic

/-!
# The headless analyzer

A decompiler that starts the analyzer once for every binary, each time in a scratch directory of its
own that is gone afterwards, whatever happens.

* `Headless`: the analyzer and its limits;
* `Headless.arguments`: what it is started with: the binary, whose digest names the project, and the
  export script;
* `Headless.invoke`: one run of it;
* `Headless.decompile`: a run, and the count of the artifacts that it added.
-/

namespace FunctionSearch

/-- A headless analyzer. -/
structure Headless where
  program : Path
  /-- The limit of one run. -/
  limit : Option Duration
  /-- A limit in seconds that the analyzer itself keeps. -/
  analysisTimeout : Option Nat
  /-- Where scratch directories are made. -/
  scratchParent : Path
  deriving DecidableEq, Repr

namespace Headless

/-- The analyzer that settings select. -/
def ofSettings (tree : FileTree) (environment : Environment) (settings : DecompilerSettings) :
    Except DecompileError Headless := do
  return {
    program := ← Analyzer.locate tree environment settings.headlessPath
    limit := settings.timeout?
    analysisTimeout := settings.analysisTimeout
    scratchParent := temporaryDirectory environment }

/-! ## One run -/

/-- The start of the names of scratch directories. -/
def scratchStem : String := "monocle-ghidra-"

/-- The directory of the export script. -/
def scriptDirectory (scratch : Path) : Path :=
  scratch.sub "script"

/-- The directory of the project. -/
def projectDirectory (scratch : Path) : Path :=
  scratch.sub "project"

/-- The number of lines of the error stream that a failure quotes. -/
def quotedLines : Nat := 10

/-- What the analyzer is started with. -/
def arguments (analyzer : Headless) (project binary scripts : Path) (digest : String) :
    List Bytes :=
  [project.bytes, Text.bytes digest, Text.bytes "-import", binary.bytes,
    Text.bytes "-scriptPath", scripts.bytes, Text.bytes "-postScript",
    Text.bytes Export.scriptName] ++
  match analyzer.analysisTimeout with
  | some seconds =>
    [Text.bytes "-analysisTimeoutPerFile", Text.Utf8.encode (Number.numeral seconds)]
  | none => []

/-- The run for a binary in a scratch directory. -/
def invocation (analyzer : Headless) (scratch binary : Path) (digest : String) :
    External.Invocation where
  program := analyzer.program
  arguments :=
    analyzer.arguments (projectDirectory scratch) binary (scriptDirectory scratch) digest
  input := none
  limit := analyzer.limit

/-- Make a directory in a scratch directory. -/
def prepareDirectory (tree : FileTree) (path : Path) : Except DecompileError FileTree :=
  (tree.makeDirectories path).mapError (.io path)

/-- Put the project directory and the script for an output directory into a scratch directory. -/
def prepare (tree : FileTree) (scratch output : Path) : Except DecompileError FileTree := do
  let tree ← prepareDirectory tree (scriptDirectory scratch)
  let tree ← prepareDirectory tree (projectDirectory scratch)
  let (_, tree) ← Export.writeScript tree (scriptDirectory scratch) output
  return tree

/-- Whether a run went well. -/
def check : Except External.Failure External.Output → Except DecompileError Unit
  | .ok output =>
    if output.status.isSuccess then .ok ()
    else .error (.failed output.status.text (output.stderrTail quotedLines))
  | .error (.timeout _ limit) => .error (.timeout limit)
  | .error failure => .error (.spawn failure.message)

variable {σ : Type}

/-- Run the analyzer on a binary in a scratch directory, and discard the directory. -/
def invoke (analyzer : Headless) (launcher : External.Launcher (World σ)) (binary output : Path)
    (digest : String) (world : World σ) : Except DecompileError Unit × World σ :=
  match Scratch.create world.files analyzer.scratchParent scratchStem with
  | .error cause => (.error (.io analyzer.scratchParent cause), world)
  | .ok (scratch, files) =>
    match prepare files scratch.path output with
    | .error error => (.error error, { world with files := scratch.discard files })
    | .ok files =>
      let (outcome, world) :=
        External.run launcher (analyzer.invocation scratch.path binary digest) { world with files }
      (check outcome, { world with files := scratch.discard world.files })

/-! ## Decompilation -/

/-- The number of names that were not there before. -/
def countNew (before after : List Name) : Nat :=
  after.countP fun name => !before.contains name

/-- Decompile a binary into an output directory. -/
def decompile (analyzer : Headless) (launcher : External.Launcher (World σ)) (binary output : Path)
    (world : World σ) : Except DecompileError DecompileReport × World σ :=
  if !world.files.isFile binary then (.error (.missingBinary binary), world)
  else match world.files.read binary with
    | .error cause => (.error (.io binary cause), world)
    | .ok content =>
      let digest := Digest.Sha256.hex content
      let program := binary.fileNameText
      let before := Artifact.namesOf world.files output program
      match analyzer.invoke launcher binary output digest world with
      | (.error error, world) => (.error error, world)
      | (.ok (), after) =>
        let functions := countNew before (Artifact.namesOf after.files output program)
        if functions = 0 then (.error (.noOutput program), after)
        else
          let elapsed := ⟨after.clock.milliseconds - world.clock.milliseconds⟩
          (.ok ⟨binary, digest, functions, elapsed⟩, after)

/-- The analyzer as a decompiler. -/
def decompiler (analyzer : Headless) (launcher : External.Launcher (World σ)) : Decompiler σ where
  name := "ghidra-headless"
  decompile := analyzer.decompile launcher

end Headless

end FunctionSearch
