import FunctionSearch.Files.Error

/-!
# File trees

The files, directories and symbolic links that a run can see, as a value.

* `Mode`: what may be done with a file;
* `FileTree`: the entries by their place below the root, and the working directory;
* `FileTree.follow` and `FileTree.resolve`: where a path leads, through symbolic links;
* `FileTree.read`, `FileTree.list`, `FileTree.canonical`: what stands there;
* `FileTree.absolute`: a path that means the same from every working directory;
* `FileTree.write`, `FileTree.makeDirectory`, `FileTree.makeDirectories`, `FileTree.remove`: the
  tree after a change.

A directory lists its entries in the order in which they were made. Every directory may be searched,
listed and changed, and every file may be written. Whether it may be read and run is kept with it.
-/

namespace FunctionSearch

/-- The names on the way from the root. -/
abbrev Location := List Name

/-- What may be done with a file. -/
structure Mode where
  readable : Bool
  executable : Bool
  deriving DecidableEq, Repr

/-- A file that may be read, given whether it may be run. -/
instance : Coe Bool Mode := ⟨fun executable => ⟨true, executable⟩⟩

/-- What a name in a directory stands for. -/
inductive Entry where
  | file (content : Bytes) (mode : Mode)
  | directory
  | link (target : Path)
  deriving DecidableEq, Repr

/-- Where a path leads: to an entry, or to a free name in a directory. -/
inductive Place where
  | present (location : Location) (entry : Entry)
  | vacant (location : Location)
  deriving DecidableEq, Repr

/-- The entries by location, in the order in which they were made. The root itself is no entry. -/
structure FileTree where
  entries : List (Location × Entry)
  workingDirectory : Location
  deriving DecidableEq, Repr

namespace FileTree

/-- The entry at a location. -/
def at? (tree : FileTree) (location : Location) : Option Entry :=
  if location.isEmpty then some .directory else tree.entries.lookup location

/-! ## Resolution -/

/-- The number of symbolic links that one path may lead through. -/
def linkLimit : Nat := 40

/-- The length from which on a name is refused. -/
def nameLimit : Nat := 256

/-- The length from which on a path is refused. -/
def pathLimit : Nat := 4096

/-- What a path is followed for, which decides about its last name. -/
inductive Aim where
  /-- What stands there. -/
  | entry
  /-- The name itself, which is to become a directory: a link in its place is not followed, and
  slashes behind it do not matter. -/
  | name
  /-- A file that may be new, whose name must not have a slash behind it. -/
  | file
  deriving DecidableEq, Repr

/-- Follow the parts of a path from the directory `here`, and `again` what a link is replaced with.
An empty part, which a slash at the end leaves, and a single point stay where they are, and two
points lead up. -/
def walkParts (tree : FileTree) (aim : Aim) (again : Location → List Name → Except IoError Place)
    (here : Location) : List Name → Except IoError Place
  | [] => .ok (.present here .directory)
  | part :: rest =>
    let last := rest.all (·.isEmpty)
    let there := here ++ [part]
    if part.isEmpty || part == [Path.dot] then walkParts tree aim again here rest
    else if part == [Path.dot, Path.dot] then walkParts tree aim again here.dropLast rest
    else if aim == .file && last && !rest.isEmpty then .error .isDirectory
    else if nameLimit ≤ part.length then .error .nameTooLong
    else match tree.at? there with
      | none => if last then .ok (.vacant there) else .error .notFound
      | some .directory => walkParts tree aim again there rest
      | some (.file content mode) =>
        if rest.isEmpty || (aim == .name && last) then .ok (.present there (.file content mode))
        else .error .notDirectory
      | some (.link target) =>
        if aim == .name && last then .ok (.present there (.link target))
        else again (if target.isAbsolute then [] else here) (target.parts ++ rest)

/-- Follow the parts of a path from a directory through at most `links` symbolic links. -/
def walk (tree : FileTree) (aim : Aim) : (links : Nat) → Location → List Name → Except IoError Place
  | 0 => walkParts tree aim fun _ _ => .error .tooManyLinks
  | links + 1 => walkParts tree aim (walk tree aim links)

/-- Where a path leads, however long it is. -/
def follow (tree : FileTree) (aim : Aim) (path : Path) : Except IoError Place :=
  if path.bytes.isEmpty then .error .notFound
  else if path.bytes.contains 0 then .error .zeroByte
  else walk tree aim linkLimit (if path.isAbsolute then [] else tree.workingDirectory) path.parts

/-- Where a path leads, if it is short enough to be followed at once. -/
def resolve (tree : FileTree) (aim : Aim) (path : Path) : Except IoError Place :=
  if pathLimit ≤ path.bytes.length && !path.bytes.contains 0 then .error .nameTooLong
  else tree.follow aim path

/-- The entry that a path leads to, through links. -/
def entry? (tree : FileTree) (path : Path) : Except IoError (Location × Entry) := do
  match ← tree.resolve .entry path with
  | .present location entry => return (location, entry)
  | .vacant _ => throw .notFound

/-! ## Questions -/

/-- Whether a path leads to a file. -/
def isFile (tree : FileTree) (path : Path) : Bool :=
  match tree.entry? path with
  | .ok (_, .file ..) => true
  | _ => false

/-- Whether a path leads to a directory. -/
def isDirectory (tree : FileTree) (path : Path) : Bool :=
  match tree.entry? path with
  | .ok (_, .directory) => true
  | _ => false

/-- Whether a path leads to a file that may be run. -/
def isExecutable (tree : FileTree) (path : Path) : Bool :=
  match tree.entry? path with
  | .ok (_, .file _ mode) => mode.executable
  | _ => false

/-- The content of the file that a path leads to. -/
def read (tree : FileTree) (path : Path) : Except IoError Bytes := do
  match ← tree.entry? path with
  | (_, .file content mode) => if mode.readable then return content else throw .accessDenied
  | _ => throw .isDirectory

/-- The content of the file that a path leads to, as text. -/
def readText (tree : FileTree) (path : Path) : Except IoError String := do
  match Text.strict? (← tree.read path) with
  | some text => return text
  | none => throw .notUtf8

/-- The entry that a location holds inside the directory, if it lies directly in it. -/
def childOf? (directory : Location) (item : Location × Entry) : Option (Name × Entry) :=
  match item.1.getLast? with
  | some name => if item.1.dropLast == directory then some (name, item.2) else none
  | none => none

/-- The entries directly in a directory. -/
def childrenOf (tree : FileTree) (directory : Location) : List (Name × Entry) :=
  tree.entries.filterMap (childOf? directory)

/-- The entries of the directory that a path leads to. -/
def list (tree : FileTree) (path : Path) : Except IoError (List (Name × Entry)) := do
  match ← tree.entry? path with
  | (location, .directory) => return tree.childrenOf location
  | _ => throw .notDirectory

/-- The path without links, points and doubled slashes of the entry that a path leads to. It is
found name by name, so the path may be of any length. -/
def canonical (tree : FileTree) (path : Path) : Except IoError Path := do
  match ← tree.follow .entry path with
  | .present location _ => return Path.ofNames true location
  | .vacant _ => throw .notFound

/-- The path of the working directory. -/
def here (tree : FileTree) : Path :=
  Path.ofNames true tree.workingDirectory

/-- The path seen from the root: without links if something stands there, and else as it is given,
below the working directory unless it starts at the root itself. -/
def absolute (tree : FileTree) (path : Path) : Path :=
  match tree.canonical path with
  | .ok canonical => canonical
  | .error _ => tree.here.join path

/-! ## Changes -/

/-- The tree with `entry` at `location`, in the place of what stood there or as the newest entry. -/
def put (tree : FileTree) (location : Location) (entry : Entry) : FileTree :=
  if (tree.entries.lookup location).isSome then
    { tree with entries := tree.entries.map fun item =>
        if item.1 == location then (location, entry) else item }
  else { tree with entries := tree.entries ++ [(location, entry)] }

/-- Give a file new content, making it if there is none; what may be done with it stays so. -/
def write (tree : FileTree) (path : Path) (content : Bytes) : Except IoError FileTree := do
  match ← tree.resolve .file path with
  | .present location (.file _ mode) => return tree.put location (.file content mode)
  | .present .. => throw .isDirectory
  | .vacant location => return tree.put location (.file content false)

/-- Make a directory in an existing one. -/
def makeDirectory (tree : FileTree) (path : Path) : Except IoError FileTree := do
  match ← tree.resolve .name path with
  | .present .. => throw .exists_
  | .vacant location => return tree.put location .directory

/-- Make a directory unless there is one. -/
def ensureDirectory (tree : FileTree) (path : Path) : Except IoError FileTree :=
  match tree.makeDirectory path with
  | .ok tree => .ok tree
  | .error error => if tree.isDirectory path then .ok tree else .error error

/-- Make a directory and those above it that do not exist yet; `depth` bounds their number. -/
def makeDirectoriesTo (tree : FileTree) (path : Path) : (depth : Nat) → Except IoError FileTree
  | 0 => tree.ensureDirectory path
  | depth + 1 =>
    if path.bytes.isEmpty then .ok tree
    else match tree.makeDirectory path with
      | .ok tree => .ok tree
      | .error error =>
        if error == .notFound then
          match path.parent? with
          | none => .error error
          | some parent => do
            let tree ← makeDirectoriesTo tree parent depth
            tree.ensureDirectory path
        else if tree.isDirectory path then .ok tree
        else .error error

/-- Make a directory and those above it that do not exist yet. -/
def makeDirectories (tree : FileTree) (path : Path) : Except IoError FileTree :=
  makeDirectoriesTo tree path (path.names.length + 1)

/-- The tree without an entry and everything below it. -/
def remove (tree : FileTree) (location : Location) : FileTree :=
  { tree with entries := tree.entries.filter fun item => !location.isPrefixOf item.1 }

end FileTree

end FunctionSearch
