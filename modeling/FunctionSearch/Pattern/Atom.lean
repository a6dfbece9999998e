import FunctionSearch.Number.Decimal
import FunctionSearch.Pattern.Modes

/-!
# The smallest parts of patterns

* `Atom`: a character, a set with a letter for its name, or a place;
* `Atom.escape?`: the part that stands behind a backslash;
* `Atom.fits`: whether a part can be meant in a mode, where it stands by itself;
* `Atom.fitsClass`: the same within brackets.

Bytes above ASCII cannot be meant by themselves, since what is matched is text.
-/

namespace FunctionSearch.Pattern

/-- The smallest parts of patterns. -/
inductive Atom where
  /-- A character, which may be given as a byte. -/
  | char (c : Char) (isByte : Bool)
  | anyChar
  /-- Digits, white space or letters, or all else. -/
  | shorthand (isNegated : Bool)
  /-- The characters of a category. -/
  | property
  /-- The start or the end of a line or of the text. -/
  | anchor
  /-- The start or the end of a word. -/
  | boundary
  deriving DecidableEq, Repr

namespace Atom

/-- Whether a part can be meant in a mode. -/
def fits (modes : Modes) : Atom → Bool
  | char c isByte => modes.isUnicode || !isByte || c.toNat < 0x80
  | anyChar => modes.isUnicode
  | shorthand isNegated => modes.isUnicode || !isNegated
  | property => modes.isUnicode
  | anchor => true
  | boundary => true

/-- Whether a part can be meant within brackets. -/
def fitsClass (modes : Modes) : Atom → Bool
  | char c _ => modes.isUnicode || c.toNat < 0x80
  | anyChar => false
  | shorthand isNegated => modes.isUnicode || !isNegated
  | property => modes.isUnicode
  | anchor => false
  | boundary => false

/-- The value of `count` hexadecimal digits behind those of which `value` was read, and what follows
them. -/
def hexFrom? (modes : Modes) (value : Nat) : (count : Nat) → List Char → Option (Nat × List Char)
  | 0, s => some (value, s)
  | count + 1, s =>
    match modes.skip s with
    | [] => none
    | c :: rest => do
      hexFrom? modes (16 * value + (← Number.hexValue? c)) count rest

/-- The character with this many hexadecimal digits. -/
def hex? (modes : Modes) (count : Nat) (isByte : Bool) (s : List Char) :
    Option (Atom × List Char) := do
  let (value, rest) ← hexFrom? modes 0 count s
  if value.isValidChar then return (char (Char.ofNat value) isByte, rest) else none

/-- The letters of the categories of characters. -/
def categories : List Char := "lmnpszc".toList

/-- The category with one letter. -/
def category? (modes : Modes) (s : List Char) : Option (Atom × List Char) :=
  match modes.skip s with
  | [] => none
  | c :: rest => if categories.contains c.toLower then some (property, rest) else none

/-- The controls with letters of their own. -/
def controls : List (Char × Char) :=
  [('a', '\x07'), ('f', '\x0C'), ('t', '\t'), ('n', '\n'), ('r', '\r'), ('v', '\x0B')]

/-- The part that stands behind a backslash, and what follows it. Signs of ASCII stand for
themselves. A brace behind a word boundary would be a name or a count that never ends. -/
def escape? (modes : Modes) : List Char → Option (Atom × List Char)
  | [] => none
  | 'x' :: s => hex? modes 2 true s
  | 'u' :: s => hex? modes 4 false s
  | 'U' :: s => hex? modes 8 false s
  | 'b' :: '\x7b' :: _ => none
  | c :: s =>
    if c == 'p' || c == 'P' then category? modes s
    else if "dsw".toList.contains c then some (shorthand false, s)
    else if "DSW".toList.contains c then some (shorthand true, s)
    else if "Az".toList.contains c then some (anchor, s)
    else if "bB<>".toList.contains c then some (boundary, s)
    else match controls.lookup c with
      | some control => some (char control false, s)
      | none =>
        if c.toNat < 0x80 && !c.isAlphanum then some (char c false, s) else none

end Atom

end FunctionSearch.Pattern
