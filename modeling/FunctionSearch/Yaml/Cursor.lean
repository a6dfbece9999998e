/-!
# Places in a YAML text

* `Yaml.isAllowed`, `Yaml.isBreak`, `Yaml.isBlank`, `Yaml.isNameChar`: the character classes of
  YAML;
* `Yaml.Cursor`: what is left of a text, with the number of bytes in front of it, the line and the
  column;
* `Cursor.skip`, `Cursor.span`, `Cursor.lineBreak`: moves through the text.

A carriage return and a line feed together are one break. A break is kept as a line feed, except the
two separators of Unicode, which stay what they are.
-/

namespace FunctionSearch.Yaml

/-- The characters that a text may hold. -/
def isAllowed (c : Char) : Bool :=
  let n := c.toNat
  n == 0x09 || n == 0x0A || n == 0x0D || (0x20 ≤ n && n ≤ 0x7E) || n == 0x85 ||
    (0xA0 ≤ n && n ≤ 0xD7FF) || (0xE000 ≤ n && n ≤ 0xFFFD) || 0x10000 ≤ n

/-- The characters that end a line. -/
def isBreak (c : Char) : Bool :=
  c == '\n' || c == '\r' || c == '\u0085' || c == '\u2028' || c == '\u2029'

/-- A space or a tab. -/
def isBlank (c : Char) : Bool :=
  c == ' ' || c == '\t'

/-- The characters of anchors and of directive names. -/
def isNameChar (c : Char) : Bool :=
  c.isAlphanum || c == '_' || c == '-'

/-- A place in a text. Lines and columns count characters from zero; the offset counts bytes. -/
structure Cursor where
  rest : List Char
  offset : Nat
  line : Nat
  column : Nat

namespace Cursor

/-- The start of a text. -/
def start (text : List Char) : Cursor :=
  ⟨text, 0, 0, 0⟩

/-- The character here. -/
def peek? (c : Cursor) : Option Char :=
  c.rest.head?

/-- The character `n` places further on. -/
def peekAt? (c : Cursor) (n : Nat) : Option Char :=
  c.rest[n]?

/-- Whether the character here is `ch`. -/
def looksAt (c : Cursor) (ch : Char) : Bool :=
  c.peek? == some ch

/-- Whether the text is at its end. -/
def atEnd (c : Cursor) : Bool :=
  c.rest.isEmpty

/-- Whether the line ends `n` places further on. -/
def endsLineAt (c : Cursor) (n : Nat) : Bool :=
  (c.peekAt? n).all isBreak

/-- Whether a blank stands `n` places further on, or the line ends there. -/
def blankAt (c : Cursor) (n : Nat) : Bool :=
  (c.peekAt? n).all fun ch => isBlank ch || isBreak ch

/-- Whether a blank or a break stands here. -/
def atSpace (c : Cursor) : Bool :=
  c.peek?.any fun ch => isBlank ch || isBreak ch

/-- The number of bytes of the next `n` characters. -/
def bytesOf (c : Cursor) (n : Nat) : Nat :=
  (c.rest.take n).foldl (fun sum ch => sum + ch.utf8Size) 0

/-- Go on by `n` characters of the same line. -/
def skip (c : Cursor) (n : Nat) : Cursor :=
  { c with rest := c.rest.drop n, offset := c.offset + c.bytesOf n, column := c.column + n }

/-- The longest run of characters with a property, which no break has, and the place behind it. -/
def span (c : Cursor) (p : Char → Bool) : List Char × Cursor :=
  let run := c.rest.takeWhile p
  (run, c.skip run.length)

/-- Go on over the longest run of characters with a property. -/
def skipWhile (c : Cursor) (p : Char → Bool) : Cursor :=
  (c.span p).2

/-- Go on to the end of the line. -/
def skipToBreak (c : Cursor) : Cursor :=
  c.skipWhile (!isBreak ·)

/-- The break here, as it is kept, and the place behind it; nothing if there is none. -/
def lineBreak (c : Cursor) : List Char × Cursor :=
  let after (n : Nat) : Cursor := ⟨c.rest.drop n, c.offset + c.bytesOf n, c.line + 1, 0⟩
  match c.rest with
  | '\r' :: '\n' :: _ => (['\n'], after 2)
  | ch :: _ =>
    if ch == '\u2028' || ch == '\u2029' then ([ch], after 1)
    else if isBreak ch then (['\n'], after 1)
    else ([], c)
  | [] => ([], c)

/-- Go on over the break here. -/
def skipBreak (c : Cursor) : Cursor :=
  c.lineBreak.2

/-- Whether a line that marks the border of a document starts here. -/
def atDocumentMark (c : Cursor) : Bool :=
  c.column == 0 && (['-', '-', '-'].isPrefixOf c.rest || ['.', '.', '.'].isPrefixOf c.rest) &&
    c.blankAt 3

end Cursor

end FunctionSearch.Yaml
