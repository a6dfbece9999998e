import FunctionSearch.World

/-!
# Starting files

What the system does with a file that is to be run: it starts a program, or it reads from the first
line of a script which program is to run the script.

* `Interpreter` and `interpreter?`: what the start of a script names;
* `load`: the program behind a file, with the arguments that it gets;
* `find`: the same for a name, which is looked for in the directories of the search path.

Which files are programs themselves is for the caller to say.
-/

namespace FunctionSearch.External.Loader

/-! ## Scripts -/

/-- What a script is to be run with. -/
structure Interpreter where
  program : Path
  argument : Option Bytes
  deriving DecidableEq, Repr

/-- What a script starts with. -/
def scriptMark : Bytes := [0x23, 0x21]

/-- The number of bytes at the start of a file that are looked at. A shorter file counts as if zeros
followed. -/
def window : Nat := 256

/-- Whether a byte is a space or a tab. -/
def isSpace (b : UInt8) : Bool :=
  b == 0x20 || b == 0x09

/-- Whether a byte ends the name of an interpreter. -/
def endsName (b : UInt8) : Bool :=
  isSpace b || b == 0

/-- A line less the spaces and tabs at its end. -/
def trimEnd (s : Bytes) : Bytes :=
  (s.reverse.dropWhile isSpace).reverse

/-- What the line behind the mark of a script says. A line that goes on beyond the window counts
only if the name of the interpreter ends inside. -/
def lineIn? (seen : Bytes) : Option Bytes :=
  let line := seen.takeWhile fun b => b != 0x0A && b != 0
  if seen[line.length]? == some 0x0A then some (trimEnd line)
  else if (seen.dropWhile isSpace).any endsName then some (trimEnd seen.dropLast)
  else none

/-- What the start of a script names. The argument is all that follows the name of the interpreter.
-/
def interpreter? (content : Bytes) : Option Interpreter := do
  let start := content.take window
  let seen := start ++ List.replicate (window - start.length) 0
  let line ← lineIn? (← scriptMark.isPrefixOf? seen)
  let named := line.dropWhile isSpace
  let program := named.takeWhile (!endsName ·)
  let behind := named.drop program.length
  if named.isEmpty then none
  else
    return {
      program := ⟨program⟩
      argument := if behind.head?.any isSpace then
        some ((behind.dropWhile isSpace).takeWhile (· != 0)) else none }

/-! ## Files -/

/-- The file that may be run at a path. The empty path of an interpreter leads to the working
directory. -/
def runnable (tree : FileTree) (path : Path) : Except IoError (Location × Bytes) :=
  if path.bytes.isEmpty then .error .accessDenied
  else match tree.entry? path with
    | .ok (location, .file content ⟨_, true⟩) => .ok (location, content)
    | .ok _ => .error .accessDenied
    | .error cause => .error cause

/-- The number of scripts that may name each other. -/
def scriptLimit : Nat := 5

/-- The program behind a file, with the arguments that it gets: its interpreter is given the path of
a script in front of the arguments. -/
def loadThrough (tree : FileTree) (isProgram : Location → Bool) :
    (scripts : Nat) → Path → List Bytes → Except IoError (Location × List Bytes)
  | scripts, path, arguments => do
    let (location, content) ← runnable tree path
    if isProgram location then return (location, arguments)
    match interpreter? content, scripts with
    | none, _ => throw .notProgram
    | some interpreter, 0 =>
      let _ ← runnable tree interpreter.program
      throw .tooManyLinks
    | some interpreter, scripts + 1 =>
      loadThrough tree isProgram scripts interpreter.program
        (interpreter.argument.toList ++ path.bytes :: arguments)

/-- The program behind a file, with the arguments that it gets. -/
def load (tree : FileTree) (isProgram : Location → Bool) (path : Path) (arguments : List Bytes) :
    Except IoError (Location × List Bytes) :=
  loadThrough tree isProgram scriptLimit path arguments

/-! ## Names -/

/-- Whether the search goes on behind a failure. -/
def isPassedOver (cause : IoError) : Bool :=
  [.notFound, .accessDenied, .notDirectory].contains cause

/-- The first attempt that succeeds, or fails for good. If none does, that something could not be
run is said in the first place, and else what the last attempt came to. -/
def firstOf {α : Type} (attempt : Path → Except IoError α) (failure : IoError) :
    List Path → Except IoError α
  | [] => .error failure
  | path :: rest =>
    match attempt path with
    | .ok found => .ok found
    | .error cause =>
      if isPassedOver cause then
        firstOf attempt (if failure == .accessDenied then failure else cause) rest
      else .error cause

/-- The program that a name stands for, with the arguments that it gets. A name with a slash in it
is a path. -/
def find (tree : FileTree) (isProgram : Location → Bool) (environment : Environment) (name : Path)
    (arguments : List Bytes) : Except IoError (Location × List Bytes) :=
  if name.bytes.isEmpty then .error .notFound
  else if name.bytes.contains Path.slash then load tree isProgram name arguments
  else firstOf (load tree isProgram · arguments) .notFound
    ((searchDirectories environment).map (·.child name.bytes))

end FunctionSearch.External.Loader
