import FunctionSearch.Number.Binary64
import FunctionSearch.Number.Decimal
import FunctionSearch.Text.Search

/-!
# Decimals in double precision, read in two steps

A quick way to read a decimal: its digits are rounded to double precision as one natural number, and
the product with the power of ten is rounded again. A number can so come out next to the nearest
one.

* `Binary64.ofText?`: the number that a text is read as;
* `Binary64.reread`: the text of that number.
-/

namespace FunctionSearch.Number.Binary64

/-- The digits in front of a mark and the text behind it, which is empty if the mark is missing. -/
def cut (mark : Char) (s : List Char) : List Char × List Char :=
  (Text.splitFirst? [mark] s).getD (s, [])

/-- The number that a decimal is read as: digits, with a point among them or without, and a power of
ten behind an `e`, or none. -/
def ofText? (s : List Char) : Option Binary64 := do
  let (decimal, exponent) := cut 'e' s
  let (whole, part) := cut '.' decimal
  let power ← if exponent.isEmpty then some 0 else integer? exponent
  let digits ← natural? (whole ++ part)
  return (nearest digits 1).times (power - part.length)

/-- A decimal as it is written once it was read. -/
def reread (s : String) : String :=
  ((ofText? s.toList).map text).getD s

end FunctionSearch.Number.Binary64
