import FunctionSearch.Number.Decimal
import FunctionSearch.Text.Utf8
import FunctionSearch.Yaml.Cursor
import FunctionSearch.Yaml.Token

/-!
# Names in YAML texts

The parts of a text that name something: anchors and references, tags, and directives.

* `nameToken?`: `&name` and `*name`;
* `tagToken?`: `!name`, `!handle!name` and `!<name>`;
* `directive?`: `%YAML` and `%TAG`.

An escape in a tag spells a byte, and a zero byte ends the tag: what is written behind it is read
and forgotten.

Every reader starts at the character that announces its part and gives the token and the place
behind it, or nothing if the text is at fault.
-/

namespace FunctionSearch.Yaml

/-! ## Anchors and references -/

/-- Whether a name may end here. -/
def endsName (c : Cursor) : Bool :=
  c.blankAt 0 || c.peek?.any fun ch => "?:,]\x7d%@`".toList.contains ch

/-- A name behind its mark, made a token by `make`. -/
def nameToken? (make : String → Token) (c : Cursor) : Option (Token × Cursor) :=
  let (name, after) := (c.skip 1).span isNameChar
  if name.isEmpty || !endsName after then none else some (make (String.ofList name), after)

/-! ## Tags -/

/-- The characters of a tag. Commas and brackets belong to it only if it is verbatim. -/
def isTagChar (verbatim : Bool) (ch : Char) : Bool :=
  isNameChar ch || ";/?:@&=+$.%!~*'()".toList.contains ch ||
    (verbatim && ",[]".toList.contains ch)

/-- The number of bytes that a first byte of an escaped character announces. -/
def escapeWidth (octet : Nat) : Nat :=
  if octet < 0x80 then 1
  else if octet / 0x20 == 0x6 then 2
  else if octet / 0x10 == 0xE then 3
  else if octet / 0x8 == 0x1E then 4
  else 0

/-- Read the `owed` bytes that are left of an escaped character; `done` holds, in reverse, those
before. -/
def escapedBytes? (done : Bytes) : (owed : Nat) → List Char → Option (Bytes × List Char)
  | 0, rest => some (done.reverse, rest)
  | owed + 1, '%' :: a :: b :: rest => do
    let octet := 16 * (← Number.hexValue? a) + (← Number.hexValue? b)
    if octet / 0x40 == 0x2 then escapedBytes? (UInt8.ofNat octet :: done) owed rest else none
  | _, _ => none

/-- A character of a tag written with escapes. -/
def escapedChar? : List Char → Option (Bytes × List Char)
  | '%' :: a :: b :: rest => do
    let octet := 16 * (← Number.hexValue? a) + (← Number.hexValue? b)
    match escapeWidth octet with
    | 0 => none
    | width + 1 => escapedBytes? [UInt8.ofNat octet] width rest
  | _ => none

/-- The rest of a tag as bytes; `fuel` bounds the number of characters. -/
def tagBytes? (verbatim : Bool) (done : Bytes) : (fuel : Nat) → List Char →
    Option (Bytes × List Char)
  | fuel + 1, ch :: rest =>
    if ch == '%' then do
      let (bytes, rest) ← escapedChar? (ch :: rest)
      tagBytes? verbatim (done ++ bytes) fuel rest
    else if isTagChar verbatim ch then
      tagBytes? verbatim (done ++ Text.Utf8.encode [ch]) fuel rest
    else some (done, ch :: rest)
  | _, rest => some (done, rest)

/-- The rest of a tag, and the place behind it. -/
def tagRest? (verbatim : Bool) (c : Cursor) : Option (Bytes × Cursor) := do
  let (bytes, rest) ← tagBytes? verbatim [] c.rest.length c.rest
  return (bytes, c.skip (c.rest.length - rest.length))

/-- What counts of the bytes of a tag. -/
def untilZero (bytes : Bytes) : Bytes :=
  bytes.takeWhile (· != 0)

/-- A handle: an exclamation mark, a name, and a second exclamation mark if there is one. -/
def handle? (c : Cursor) : Option (String × Cursor) :=
  if c.looksAt '!' then
    let (name, after) := (c.skip 1).span isNameChar
    if after.looksAt '!' then some (String.ofList ('!' :: name ++ ['!']), after.skip 1)
    else some (String.ofList ('!' :: name), after)
  else none

/-- Whether a handle ends in a second exclamation mark. -/
def isFullHandle (handle : String) : Bool :=
  1 < handle.length && handle.toList.getLast? == some '!'

/-- The handle and the rest of a tag. A lone exclamation mark has no handle and is all rest. -/
def tagParts? (c : Cursor) : Option (String × Bytes × Cursor) :=
  if c.peekAt? 1 == some '<' then do
    let (name, after) ← tagRest? true (c.skip 2)
    if name.isEmpty || !after.looksAt '>' then none else some ("", untilZero name, after.skip 1)
  else do
    let (handle, after) ← handle? c
    if isFullHandle handle then do
      let (rest, after) ← tagRest? false after
      if rest.isEmpty then none else some (handle, untilZero rest, after)
    else do
      let (rest, after) ← tagRest? false after
      let name := untilZero (Text.Utf8.encode (handle.toList.drop 1) ++ rest)
      if name.isEmpty then some ("", Text.bytes "!", after) else some ("!", name, after)

/-- A tag. -/
def tagToken? (inFlow : Bool) (c : Cursor) : Option (Token × Cursor) := do
  let (handle, rest, after) ← tagParts? c
  if after.blankAt 0 || (inFlow && after.looksAt ',') then some (.tag handle rest, after) else none

/-! ## Directives -/

/-- A number of a version, of at most nine digits. -/
def versionNumber? (c : Cursor) : Option (Nat × Cursor) :=
  let (digits, after) := c.span Char.isDigit
  if digits.length ≤ 9 then (Number.natural? digits).map (·, after) else none

/-- The version behind `%YAML`. -/
def versionDirective? (c : Cursor) : Option (Token × Cursor) := do
  let (major, c) ← versionNumber? (c.skipWhile isBlank)
  if !c.looksAt '.' then none
  else
    let (minor, c) ← versionNumber? (c.skip 1)
    return (.versionDirective major minor, c)

/-- The handle and its expansion behind `%TAG`. -/
def tagDirective? (c : Cursor) : Option (Token × Cursor) := do
  let (handle, c) ← handle? (c.skipWhile isBlank)
  if !(handle == "!" || isFullHandle handle) || !c.peek?.any isBlank then none
  else
    let (expansion, c) ← tagRest? true (c.skipWhile isBlank)
    if expansion.isEmpty || !c.blankAt 0 then none
    else return (.tagDirective handle (untilZero expansion), c)

/-- A comment, if there is one, and the break behind it; nothing else may be left on the line. -/
def restOfLine? (c : Cursor) : Option Cursor :=
  let c := c.skipWhile isBlank
  let c := if c.looksAt '#' then c.skipToBreak else c
  if c.endsLineAt 0 then some c.skipBreak else none

/-- A directive. -/
def directive? (c : Cursor) : Option (Token × Cursor) := do
  let (name, c) := (c.skip 1).span isNameChar
  if name.isEmpty || !c.blankAt 0 then none
  else
    let (token, c) ←
      match String.ofList name with
      | "YAML" => versionDirective? c
      | "TAG" => tagDirective? c
      | _ => none
    return (token, ← restOfLine? c)

end FunctionSearch.Yaml
