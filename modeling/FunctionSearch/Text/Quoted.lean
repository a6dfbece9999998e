import FunctionSearch.Text.HiddenTable

/-!
# Texts between quotes

A text written between double quotes so that nothing in it is hidden.

* `isHidden`: the characters that do not show;
* `quoteChar` and `quoted`: a character and a text in quotes, with escapes for quotes, for
  backslashes and, by their code points, for hidden characters;
* `isHidden_ascii`: of ASCII, the control characters are hidden.
-/

namespace FunctionSearch.Text

/-- Whether a code point lies in one of these ranges, of which each has its first and last. -/
def inRanges (ranges : List (Nat × Nat)) (n : Nat) : Bool :=
  ranges.any fun (first, last) => first ≤ n && n ≤ last

/-- Whether a character does not show as one of its own. -/
def isHidden (c : Char) : Bool :=
  if c.toNat < 0x7F then c.toNat < 0x20 else inRanges HiddenTable.ranges c.toNat

theorem isHidden_ascii {c : Char} (h : c.toNat < 0x7F) :
    isHidden c = decide (c.toNat < 0x20) := by
  simp [isHidden, h]

/-- One character between quotes. -/
def quoteChar (c : Char) : List Char :=
  match c with
  | '\x00' => ['\\', '0']
  | '\t' => ['\\', 't']
  | '\r' => ['\\', 'r']
  | '\n' => ['\\', 'n']
  | '"' => ['\\', '"']
  | '\\' => ['\\', '\\']
  | c =>
    if isHidden c then ['\\', 'u', '\x7b'] ++ Nat.toDigits 16 c.toNat ++ ['\x7d'] else [c]

/-- A text between quotes. -/
def quoted (s : List Char) : List Char :=
  '"' :: s.flatMap quoteChar ++ ['"']

end FunctionSearch.Text
