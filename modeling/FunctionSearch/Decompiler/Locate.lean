import FunctionSearch.Decompiler.Error
import FunctionSearch.World

/-!
# The place of the analyzer

Where the headless analyzer is found.

* `Analyzer.resolve`: a configured path, which must be a program; else the first program among those
  that the environment names; else what a search of the `PATH` finds;
* `Analyzer.inHome?`: the meaning of a tilde at the start of a directory of the `PATH`;
* `Analyzer.locate`: the analyzer on a file tree.
-/

namespace FunctionSearch.Analyzer

/-- The file name of the analyzer. -/
def fileName : String := "analyzeHeadless"

/-- The variable that names the analyzer itself. -/
def programVariable : String := "GHIDRA_ANALYZE_HEADLESS"

/-- The variable that names the directory in which the analyzer is installed. -/
def installVariable : String := "GHIDRA_INSTALL_DIR"

/-- The places of the analyzer in an installation. -/
def installed (directory : Path) : List Path :=
  [(directory.sub "support").sub fileName, directory.sub fileName]

/-- The places that the environment names, in the order in which they are tried. -/
def candidates (lookup : String → Option Path) : List Path :=
  (lookup programVariable).toList ++ ((lookup installVariable).map installed).getD []

/-- What to do about an analyzer that is found nowhere. -/
def advice : String :=
  s!"set decompiler.headless_path, {programVariable} or {installVariable}, " ++
    s!"or put {fileName} on the PATH"

/-- The analyzer, given which paths are programs, what the environment names and what a search for
a file name finds. -/
def resolve (isProgram : Path → Bool) (lookup search : String → Option Path)
    (configured : Option Path) : Except DecompileError Path :=
  match configured with
  | some path =>
    if isProgram path then .ok path
    else .error (.toolNotFound s!"configured path {path.display} is not an executable file")
  | none =>
    match ((candidates lookup).find? isProgram).or (search fileName) with
    | some path => .ok path
    | none => .error (.toolNotFound advice)

/-- The home directory of whoever runs this. -/
def home? (environment : Environment) : Option Path :=
  ((environment "HOME").filter (!·.isEmpty)).map Path.ofString

/-- A directory in which a tilde as the first name stands for the home directory. Without a home
directory such a path leads nowhere. -/
def inHome? (home : Option Path) (directory : Path) : Option Path :=
  if directory.parts.head? == some [0x7E] then
    home.map fun home => (directory.names.drop 1).foldl Path.child home
  else some directory

/-- The first program with this name in a list of directories. -/
def programIn (tree : FileTree) (directories : List Path) (name : String) : Option Path :=
  (directories.map (·.sub name)).find? tree.isExecutable

/-- The directories of the search path, seen from the home directory where they start with a
tilde. -/
def expandedDirectories (environment : Environment) : List Path :=
  (searchDirectories environment).filterMap (inHome? (home? environment))

/-- The analyzer on a file tree. -/
def locate (tree : FileTree) (environment : Environment) (configured : Option Path) :
    Except DecompileError Path :=
  resolve tree.isExecutable (fun name => (environment name).map Path.ofString)
    (programIn tree (expandedDirectories environment)) configured

end FunctionSearch.Analyzer
