import FunctionSearch.Artifact.Name
import FunctionSearch.Files.Tree

/-!
# Function corpora

The decompiled functions in a directory.

* `FunctionRecord`: one function with its code;
* `Corpus`: the functions of a directory, and the files there that give none;
* `Corpus.ofEntries` and `Corpus.load`: the corpus of a listing and of a directory;
* `namesOf`: the names in a listing that belong to one program.

Directories and symbolic links among the entries are passed over, and order is that of the listing.
-/

namespace FunctionSearch

/-- A decompiled function. -/
structure FunctionRecord where
  binary : String
  function : String
  code : String
  deriving DecidableEq, Repr

namespace Artifact

/-- A file that gives no function: it is not named like an artifact, or it cannot be read. -/
structure Malformed where
  path : Path
  reason : String
  deriving DecidableEq, Repr

/-- What a directory holds. -/
structure Corpus where
  records : List FunctionRecord
  malformed : List Malformed
  deriving DecidableEq, Repr

/-- A file of the directory `directory` as a function, or as what is wrong with it. -/
def readFile (tree : FileTree) (directory : Path) (name : Name) : FunctionRecord ⊕ Malformed :=
  match parse? (Text.lossy name) with
  | .error defect => .inr ⟨directory.child name, defect.reason⟩
  | .ok fields =>
    match tree.read (directory.child name) with
    | .ok content => .inl ⟨fields.binary, fields.function, Text.lossy content⟩
    | .error cause => .inr ⟨directory.child name, cause.message⟩

/-- An entry of the directory `directory`, if it is a file. -/
def readEntry (tree : FileTree) (directory : Path) :
    Name × Entry → Option (FunctionRecord ⊕ Malformed)
  | (name, .file ..) => some (readFile tree directory name)
  | _ => none

/-- The corpus that a listing of the directory `directory` makes. -/
def Corpus.ofEntries (tree : FileTree) (directory : Path) (entries : List (Name × Entry)) :
    Corpus :=
  let items := entries.filterMap (readEntry tree directory)
  { records := items.filterMap fun item => item.elim some fun _ => none
    malformed := items.filterMap fun item => item.elim (fun _ => none) some }

/-- The corpus of a directory. -/
def Corpus.load (tree : FileTree) (directory : Path) : Except IoError Corpus := do
  return Corpus.ofEntries tree directory (← tree.list directory)

/-- What the names of a program's artifacts start with. -/
def stemOf (program : String) : List Char :=
  (sanitize program).toList ++ separator

/-- Whether an entry with this name belongs to a program. -/
def belongsTo (program : String) (name : Name) : Bool :=
  (stemOf program).isPrefixOf (Text.Utf8.decodeLossy name)

/-- The names in a directory that belong to a program; none if it cannot be listed. -/
def namesOf (tree : FileTree) (directory : Path) (program : String) : List Name :=
  match tree.list directory with
  | .ok entries => (entries.map (·.1)).filter (belongsTo program)
  | .error _ => []

end Artifact

end FunctionSearch
