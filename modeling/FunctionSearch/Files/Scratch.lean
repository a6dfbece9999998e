import FunctionSearch.Files.Tree
import FunctionSearch.Number.Decimal

/-!
# Scratch directories

Fresh directories in a directory for temporary files, named by a stem and a number of six digits.

* `Scratch.create`: a new directory, under the first such name that is free;
* `Scratch.discard`: the tree without the directory and all that was put into it.
-/

namespace FunctionSearch

/-- A directory that lives as long as the work that is done in it. -/
structure Scratch where
  path : Path
  location : Location
  deriving DecidableEq, Repr

namespace Scratch

/-- The name of the scratch directory with this number. -/
def nameOf (stem : String) (n : Nat) : Name :=
  let digits := Number.numeral n
  Text.Utf8.encode (stem.toList ++ List.replicate (6 - digits.length) '0' ++ digits)

/-- A scratch directory under the first free name from the number `n` on; at most `tries`
names are tried. -/
def createFrom (tree : FileTree) (parent : Path) (stem : String) :
    (tries n : Nat) → Except IoError (Scratch × FileTree)
  | 0, n => .error (.about (parent.child (nameOf stem n)) .exists_)
  | tries + 1, n =>
    let path := parent.child (nameOf stem n)
    match tree.resolve .name path with
    | .ok (.vacant location) => .ok (⟨path, location⟩, tree.put location .directory)
    | .ok (.present ..) => createFrom tree parent stem tries (n + 1)
    | .error cause => .error (.about path cause)

/-- A new scratch directory in `parent`. Every taken name is an entry of the tree, so there are
fewer of them than names to try. -/
def create (tree : FileTree) (parent : Path) (stem : String) :
    Except IoError (Scratch × FileTree) :=
  createFrom tree (tree.here.join parent) stem (tree.entries.length + 1) 0

/-- The tree without a scratch directory. -/
def discard (scratch : Scratch) (tree : FileTree) : FileTree :=
  tree.remove scratch.location

end Scratch

end FunctionSearch
