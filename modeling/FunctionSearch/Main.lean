import FunctionSearch.CommandLine.Command
import Std.Time.DateTime.Timestamp

/-!
# The program on a system

The outer layer: it reads what a command line names into a world, does what is asked for, prints the
answer and writes down what has changed. It starts no programs and reaches no servers, and says so
where one is needed.

* `readEntries`: what stands at a path, and everything on the way to it;
* `writeChanges`: the new files and directories of a tree;
* `start`: the program.
-/

namespace FunctionSearch.Program

open CommandLine

/-! ## Reading -/

/-- The file at a path. Every file counts as one that may be run. -/
def readFile (path : Path) : IO Entry := do
  try
    return .file (← IO.FS.readBinFile path.display).toList ⟨true, true⟩
  catch _ => return .file [] ⟨false, true⟩

/-- The entry at a path, if something stands there. -/
def readEntry (path : Path) : IO (Option Entry) := do
  try
    let real ← IO.FS.realPath path.display
    if ← real.isDir then return some .directory
    else return some (← readFile (.ofString real.toString))
  catch _ => return none

/-- The names in a directory. -/
def readNames (path : Path) : IO (List Name) := do
  try
    let entries ← (← IO.FS.realPath path.display).readDir
    return entries.toList.map fun entry => Text.bytes entry.fileName
  catch _ => return []

/-- The tree with what stands at a location, if it holds nothing there yet. -/
def readLocation (tree : FileTree) (location : Location) : IO FileTree := do
  if (tree.at? location).isSome then return tree
  else match ← readEntry (.ofNames true location) with
    | some entry => return tree.put location entry
    | none => return tree

/-- The tree with what stands at a path, on the way to it and, if it is a directory, in it. -/
def readEntries (tree : FileTree) (path : Path) : IO FileTree := do
  let mut tree := tree
  let mut location : Location := []
  for name in (tree.here.join path).names do
    location := if name == [Path.dot, Path.dot] then location.dropLast else location ++ [name]
    tree ← readLocation tree location
  if tree.at? location == some .directory then
    for name in ← readNames (.ofNames true location) do
      tree ← readLocation tree (location ++ [name])
  return tree

/-- The paths that a command names. -/
def pathsOf : Command → List Path
  | .find request =>
    [request.target] ++ request.config.toList ++ request.overrides.headless.toList ++
      request.keepOutput.toList
  | .decompile request =>
    [request.input, request.output] ++ request.config.toList ++
      request.overrides.headless.toList
  | .script output => [output]
  | .answer _ => []

/-- The variables that a command may ask for. -/
def variableNames : List String :=
  [Settings.apiKeyVariable, Settings.endpointVariable, Analyzer.programVariable,
    Analyzer.installVariable, LogFilter.filterVariable, "HOME", "PATH", "TMPDIR"]

/-- The environment. -/
def readVariables : IO (List (String × String)) := do
  let found ← variableNames.mapM fun name => return (name, ← IO.getEnv name)
  return found.filterMap fun (name, value) => value.map (name, ·)

/-- The paths that the environment names. -/
def environmentPaths (environment : Environment) : List Path :=
  temporaryDirectory environment ::
    Analyzer.candidates (fun name => (environment name).map Path.ofString) ++
    (Analyzer.expandedDirectories environment).map (·.sub Analyzer.fileName)

/-! ## Writing -/

/-- Write down one entry. -/
def writeEntry (location : Location) (entry : Entry) : IO Unit :=
  let path := (Path.ofNames true location).display
  match entry with
  | .directory => IO.FS.createDirAll path
  | .file content _ => IO.FS.writeBinFile path ⟨content.toArray⟩
  | .link _ => pure ()

/-- Write down the entries of `after` that `before` does not have. -/
def writeChanges (before after : FileTree) : IO Unit := do
  for (location, entry) in after.entries do
    if before.at? location != some entry then writeEntry location entry

/-! ## The program -/

/-- The answer to every attempt to start a program: this layer cannot do it. -/
def launcher : External.Launcher (World Unit) :=
  fun _ world => (.refused (.system 38), world)

/-- The fate of every request: this layer cannot deliver it. -/
def transport : Scoring.Chat.Transport (World Unit) :=
  fun _ _ world => (.notDelivered, world)

/-- The world that a command can see. -/
def readWorld (words : List String) (environment : Environment) : IO (World Unit) := do
  let here := Path.ofString (← IO.currentDir).toString
  let named := ((parse words).toOption.map fun order => pathsOf order.command).getD []
  let mut tree : FileTree := ⟨[], here.names⟩
  for path in here :: named ++ environmentPaths environment do
    tree ← readEntries tree path
  let now ← Std.Time.Timestamp.now
  return ⟨tree, ⟨now.toMillisecondsSinceUnixEpoch.val.toNat⟩, ()⟩

/-- Do what a command line asks for. -/
def start (words : List String) : IO UInt32 := do
  let found ← readVariables
  let environment : Environment := fun name => found.lookup name
  let world ← readWorld words environment
  let (ending, after) := CommandLine.run ⟨environment, launcher, transport⟩ words world
  (← IO.getStdout).putStr ending.stdout
  (← IO.getStderr).putStr ending.stderr
  writeChanges world.files after.files
  return ending.code.toUInt32

end FunctionSearch.Program

/-- Do what the command line asks for. -/
def main (words : List String) : IO UInt32 :=
  FunctionSearch.Program.start words
