import FunctionSearch.Text.Blank
import FunctionSearch.Text.Case
import FunctionSearch.Text.Quoted
import FunctionSearch.Web.NameTable
import FunctionSearch.Web.Punycode

/-!
# Names of hosts

A name of a host is a sequence of labels with points between them. It may hold letters of any
script, in either case.

* `Name.foldChar?`: what a character stands for in a name;
* `Name.decodeLabel?`: what a label stands for that is written in ASCII only;
* `Name.isOrdered`: whether a label has its letters in an order in which it can be shown where some
  of them are written from right to left;
* `Name.read?`: the name that a text stands for.

Labels may be empty and of any length, and hyphens may stand everywhere.
-/

namespace FunctionSearch.Web.Name

open Text

/-! ## Characters -/

/-- The characters of ASCII that a code point stands for. -/
def asciiOf? (n : Nat) : Option (List Char) :=
  ((NameTable.asciiRows.find? fun (first, last, _) => first ≤ n && n ≤ last).map
    fun (first, _, image) => [Char.ofNat (image + (n - first))]).or
  ((NameTable.asciiTexts.lookup n).map String.toList)

/-- What a character stands for in a name, unless it has no place there. -/
def foldChar? (c : Char) : Option (List Char) :=
  let n := c.toNat
  if n < 0x80 then some [c.toLower]
  else if inRanges NameTable.forbidden n then none
  else if inRanges NameTable.ignored n then some []
  else some ((asciiOf? n).getD (lower c))

/-- Whether a character stands for itself. -/
def isFolded (c : Char) : Bool :=
  foldChar? c == some [c]

/-- Whether a character combines with the one in front of it. -/
def isMark (c : Char) : Bool :=
  inRanges NameTable.marks c.toNat

/-- Whether a character joins its neighbours or keeps them apart. -/
def isJoiner (c : Char) : Bool :=
  c == '\u200C' || c == '\u200D'

/-- Whether a character of ASCII has a place in a name. -/
def isPlain (c : Char) : Bool :=
  c.isAlphanum || "!$&'()*+,-.;=_~".toList.contains c

/-! ## Order of writing -/

/-- How a character behaves among others that are written from right to left. -/
inductive Direction where
  | left
  | right
  | number
  | arabicNumber
  | mark
  | neutral
  deriving DecidableEq, Repr

/-- How a character behaves among others that are written from right to left. -/
def direction (c : Char) : Direction :=
  if c.isAlpha then .left
  else if c.isDigit || ('\u06F0' ≤ c && c ≤ '\u06F9') then .number
  else if c.toNat < 0x80 then .neutral
  else if isMark c then .mark
  else if inRanges NameTable.rightToLeft c.toNat then .right
  else if inRanges NameTable.arabicNumbers c.toNat then .arabicNumber
  else .left

/-- Whether a character makes the order of writing matter. -/
def turnsRight (c : Char) : Bool :=
  direction c == .right || direction c == .arabicNumber

/-- Whether a label can be shown in one order. -/
def isOrdered (label : List Char) : Bool :=
  let directions := label.map direction
  let ending := (directions.reverse.dropWhile (· == .mark)).head?
  match directions.head? with
  | none => true
  | some .right =>
    !directions.contains .left && [some .right, some .number, some .arabicNumber].contains ending &&
      !(directions.contains .number && directions.contains .arabicNumber)
  | some .left =>
    !label.any turnsRight && [some Direction.left, some .number].contains ending
  | some _ => false

/-! ## Labels -/

/-- Whether every joiner stands behind a mark that takes away a vowel. -/
def joinersFit (label : List Char) : Bool :=
  (('\x00' :: label).zip label).all fun (before, c) =>
    !isJoiner c || inRanges NameTable.viramas before.toNat

/-- What a label starts with that stands for other characters. -/
def codeMark : List Char := "xn--".toList

/-- What a label stands for. One that is written in ASCII only must stand for something else than
ASCII, and for nothing that could be written otherwise. -/
def decodeLabel? (label : List Char) : Option (List Char) :=
  match codeMark.isPrefixOf? label with
  | none => some label
  | some code =>
    (Punycode.decode? code).filter fun letters =>
      letters.any (0x80 ≤ ·.toNat) && letters.all isFolded

/-- Whether a label is well formed. -/
def isLabel (label : List Char) : Bool :=
  !label.head?.any isMark && joinersFit label && label.all fun c => 0x80 ≤ c.toNat || isPlain c

/-! ## Names -/

/-- The name that a text stands for. -/
def read? (text : List Char) : Option (List Char) := do
  let labels := splitWhere (· == '.') (← text.mapM foldChar?).flatten
  let meant ← labels.mapM decodeLabel?
  if meant.all isLabel && (!meant.any (·.any turnsRight) || meant.all isOrdered) then
    return (labels.intersperse ['.']).flatten
  else none

end FunctionSearch.Web.Name
