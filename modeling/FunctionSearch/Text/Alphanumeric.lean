import FunctionSearch.Text.AlphanumericTable
import FunctionSearch.Text.Quoted

/-!
# Letters and numbers

* `isAlphanumeric`: the characters that are alphabetic or numbers in Unicode;
* `isAlphabetic`: those that are alphabetic;
* `isAlphanumeric_ascii`, `isAlphabetic_ascii`: on ASCII these are the letters and digits of the
  core library.
-/

namespace FunctionSearch.Text

/-- The characters that are alphabetic or numbers. -/
def isAlphanumeric (c : Char) : Bool :=
  if c.toNat < 0x80 then c.isAlphanum else inRanges AlphanumericTable.ranges c.toNat

/-- The characters that are alphabetic. -/
def isAlphabetic (c : Char) : Bool :=
  if c.toNat < 0x80 then c.isAlpha
  else isAlphanumeric c && !inRanges AlphanumericTable.numberRanges c.toNat

theorem isAlphanumeric_ascii {c : Char} (h : c.toNat < 0x80) :
    isAlphanumeric c = c.isAlphanum := by
  simp [isAlphanumeric, h]

theorem isAlphabetic_ascii {c : Char} (h : c.toNat < 0x80) : isAlphabetic c = c.isAlpha := by
  simp [isAlphabetic, h]

end FunctionSearch.Text
