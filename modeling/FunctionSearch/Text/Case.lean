import FunctionSearch.Text.CaseTable

/-!
# Upper and lower case

Case mappings character by character, without regard to what stands around a character, so a
sigma at the end of a word is an ordinary sigma.

* `upper` and `lower`: the text that one character becomes;
* `upper_ascii` and `lower_ascii`: on ASCII they are the mappings of the core library.
-/

namespace FunctionSearch.Text

/-- The image of code point `n` under the first row that holds it. -/
def imageIn? (rows : List (Nat × Nat × Nat × Nat)) (n : Nat) : Option Nat :=
  rows.findSome? fun (first, last, stride, image) =>
    if first ≤ n && n ≤ last && (n - first) % stride == 0 then some (image + (n - first)) else none

/-- What a character becomes under a table of rows and expansions: itself if neither has it. -/
def mapCase (rows : List (Nat × Nat × Nat × Nat)) (expansions : List (Nat × List Nat))
    (c : Char) : List Char :=
  match imageIn? rows c.toNat with
  | some image => [Char.ofNat image]
  | none => ((expansions.lookup c.toNat).map (·.map Char.ofNat)).getD [c]

/-- The upper case of one character. -/
def upper (c : Char) : List Char :=
  if c.toNat < 128 then [c.toUpper]
  else mapCase CaseTable.upperRows CaseTable.upperExpansions c

/-- The lower case of one character. -/
def lower (c : Char) : List Char :=
  if c.toNat < 128 then [c.toLower]
  else mapCase CaseTable.lowerRows CaseTable.lowerExpansions c

theorem upper_ascii {c : Char} (h : c.toNat < 128) : upper c = [c.toUpper] := by
  simp [upper, h]

theorem lower_ascii {c : Char} (h : c.toNat < 128) : lower c = [c.toLower] := by
  simp [lower, h]

end FunctionSearch.Text
