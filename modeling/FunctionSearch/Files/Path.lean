import FunctionSearch.Text.Blank
import FunctionSearch.Text.Quoted
import FunctionSearch.Text.Utf8

/-!
# Paths

A path is a sequence of bytes in which slashes separate names; nothing says that it is text.

* `Path.join`: a path seen from another one;
* `Path.fileName?`, `Path.extension?`: the last name, and its part behind the last point;
* `Path.display`, `Path.text?` and `Path.quoted`: the path as text, lossily, or not at all, or
  between quotes;
* `Path.parent?`: the path less its last name.
-/

namespace FunctionSearch

/-- A name in a directory. -/
abbrev Name := Bytes

/-- A path of the file system. -/
structure Path where
  bytes : Bytes
  deriving DecidableEq, Repr

namespace Path

/-- The byte between the names of a path. -/
def slash : UInt8 := 0x2F

/-- The byte of a full stop. -/
def dot : UInt8 := 0x2E

/-- The path that a text spells. -/
def ofString (s : String) : Path :=
  ⟨Text.bytes s⟩

/-- The path as text, U+FFFD standing for what is not well formed. -/
def display (p : Path) : String :=
  Text.lossy p.bytes

/-- The path between quotes, so that nothing in it is hidden. -/
def quoted (p : Path) : String :=
  String.ofList (Text.quoted p.display.toList)

/-- The path as text, if it is well formed. -/
def text? (p : Path) : Option String :=
  Text.strict? p.bytes

/-- Whether the path starts at the root. -/
def isAbsolute (p : Path) : Bool :=
  p.bytes.head? == some slash

/-- The path `q` seen from the directory `p`. -/
def join (p q : Path) : Path :=
  if q.isAbsolute then q
  else if p.bytes.isEmpty || p.bytes.getLast? == some slash then ⟨p.bytes ++ q.bytes⟩
  else ⟨p.bytes ++ slash :: q.bytes⟩

/-- A name in the directory `p`. -/
def child (p : Path) (name : Name) : Path :=
  p.join ⟨name⟩

/-- A name, given as text, in the directory `p`. -/
def sub (p : Path) (name : String) : Path :=
  p.child (Text.bytes name)

/-- What stands between the slashes, empty parts included. -/
def parts (p : Path) : List Name :=
  Text.splitWhere (· == slash) p.bytes

/-- The names of a path, without the empty ones and without single points. -/
def names (p : Path) : List Name :=
  p.parts.filter fun name => !name.isEmpty && name != [dot]

/-- The path from the root or from here through these names. -/
def ofNames (absolute : Bool) (names : List Name) : Path :=
  ⟨(if absolute then [slash] else []) ++ (names.intersperse [slash]).flatten⟩

/-- The last name of a path, unless it leads upwards. -/
def fileName? (p : Path) : Option Name :=
  p.names.getLast?.filter (· != [dot, dot])

/-- The last name as text, empty if there is none. -/
def fileNameText (p : Path) : String :=
  Text.lossy (p.fileName?.getD [])

/-- The part of the last name behind its last point. A point that starts the name does not count. -/
def extension? (p : Path) : Option Bytes := do
  let pieces := Text.splitWhere (· == dot) (← p.fileName?)
  match pieces with
  | [_] => none
  | [[], _] => none
  | _ => pieces.getLast?

/-- The path less its last name; a path without names has no parent. -/
def parent? (p : Path) : Option Path :=
  match p.names with
  | [] => none
  | names => some (ofNames p.isAbsolute names.dropLast)

end Path

end FunctionSearch
