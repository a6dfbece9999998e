import FunctionSearch.Number.Decimal
import FunctionSearch.Text.Utf8

/-!
# Percent escapes

A byte of a text in an address may be written as a percent sign and two hexadecimal digits.

* `Percent.byte` and `Percent.escape`: the escape of a byte, and a text with escapes where it needs
  them;
* `Percent.decode`: the bytes that a text with escapes stands for;
* `Percent.decodeText?`: the text that it stands for, if there is one.

A percent sign that no two digits follow stands for itself.
-/

namespace FunctionSearch.Web.Percent

/-- The escape of a byte. -/
def byte (b : UInt8) : List Char :=
  '%' :: (Number.hexByte b).map Char.toUpper

/-- A text with percent escapes for the characters of a set, for controls and blanks, and beyond
ASCII. -/
def escape (set : List Char) (s : List Char) : List Char :=
  s.flatMap fun c =>
    if c.toNat ≤ 0x20 || 0x7F ≤ c.toNat || set.contains c then (Text.Utf8.encode [c]).flatMap byte
    else [c]

/-- The byte with two hexadecimal digits. -/
def digits? (high low : Char) : Option UInt8 := do
  return UInt8.ofNat (16 * (← Number.hexValue? high) + (← Number.hexValue? low))

/-- The bytes that a text stands for. -/
def decode : List Char → Bytes
  | '%' :: high :: low :: rest =>
    match digits? high low with
    | some b => b :: decode rest
    | none => Text.Utf8.encode ['%'] ++ decode (high :: low :: rest)
  | c :: rest => Text.Utf8.encode [c] ++ decode rest
  | [] => []

/-- The text that a text with escapes stands for, if the bytes are well formed. -/
def decodeText? (s : List Char) : Option (List Char) :=
  Text.Utf8.decode? (decode s)

end FunctionSearch.Web.Percent
