/-!
# Punycode

A text written with letters, digits and hyphens of ASCII: first the characters that are such, then
behind the last hyphen numbers that say which other characters stand where.

* `Punycode.threshold` and `Punycode.adapt`: the digit at which a number ends, and the bias that
  moves it;
* `Punycode.readNumbers`: the characters that the numbers put in;
* `Punycode.decode?`: the text that such a text stands for.

The numbers have 36 digits. A number says how far to go on, counting for every code point each place
that it could take.
-/

namespace FunctionSearch.Web.Punycode

/-- The value of a digit. -/
def digit? (c : Char) : Option Nat :=
  if c.isLower then some (c.toNat - 'a'.toNat)
  else if c.isUpper then some (c.toNat - 'A'.toNat)
  else if c.isDigit then some (c.toNat - '0'.toNat + 26)
  else none

/-- The digit from which on a number goes on, at a place that counts from 36 in steps of 36. -/
def threshold (place bias : Nat) : Nat :=
  if place ≤ bias then 1 else min 26 (place - bias)

/-- The bias for numbers of this size. -/
def biasOf (bias size : Nat) : Nat :=
  if 455 < size then biasOf (bias + 36) (size / 35) else bias + 36 * size / (size + 38)
termination_by size
decreasing_by omega

/-- The bias behind a number. -/
def adapt (number count : Nat) (isFirst : Bool) : Nat :=
  let size := number / if isFirst then 700 else 2
  biasOf 0 (size + size / count)

/-- What was read so far. -/
structure Reading where
  letters : List Char
  /-- The code point that is put in next. -/
  code : Nat
  /-- Where it is put in. -/
  position : Nat
  /-- The position in front of the number that is being read. -/
  start : Nat
  /-- The weight of the next digit. -/
  weight : Nat
  /-- The place of the next digit. -/
  place : Nat
  bias : Nat

/-- A character in the middle of a text. -/
def insertAt (position : Nat) (c : Char) (s : List Char) : List Char :=
  s.take position ++ c :: s.drop position

/-- Read on to the end. -/
def readNumbers (reading : Reading) : List Char → Option (List Char)
  | [] => if reading.place = 36 then some reading.letters else none
  | c :: rest =>
    match digit? c with
    | none => none
    | some digit =>
      let position := reading.position + digit * reading.weight
      let least := threshold reading.place reading.bias
      if least ≤ digit then
        readNumbers { reading with
          position, weight := reading.weight * (36 - least), place := reading.place + 36 } rest
      else
        let count := reading.letters.length + 1
        let code := reading.code + position / count
        let position' := position % count
        if code.isValidChar then
          readNumbers
            ⟨insertAt position' (Char.ofNat code) reading.letters, code, position' + 1,
              position' + 1, 1, 36, adapt (position - reading.start) count (reading.start = 0)⟩ rest
        else none

/-- The text that a text in this form stands for. -/
def decode? (s : List Char) : Option (List Char) :=
  let numbers := (s.reverse.takeWhile (· != '-')).reverse
  let letters := s.take (s.length - numbers.length - 1)
  if letters.isEmpty && numbers.length < s.length then none
  else readNumbers ⟨letters, 0x80, 0, 0, 1, 36, 72⟩ numbers

end FunctionSearch.Web.Punycode
