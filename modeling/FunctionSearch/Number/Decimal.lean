/-!
# Decimal numerals

Natural numbers and integers as ASCII digits.

* `numeral`: a natural number in decimal;
* `natural?`: the value of a run of one or more digits, leading zeros allowed;
* `integer?`: the same behind an optional sign;
* `naturalBelow?` and `count?`: values below a bound, without and with a plus sign in front;
* `isReal`: the numerals that may have a point and an exponent.

Reading back what `numeral` wrote gives the number again (`natural?_numeral`).
-/

namespace FunctionSearch.Number

/-- A natural number in decimal, without leading zeros. -/
def numeral (n : Nat) : List Char :=
  Nat.toDigits 10 n

/-- The value of a run of one or more ASCII digits. -/
def natural? (s : List Char) : Option Nat :=
  if !s.isEmpty && s.all Char.isDigit then some (Nat.ofDigitChars 10 s 0) else none

/-- The value of a run of digits, if it is below `bound`. -/
def naturalBelow? (bound : Nat) (s : List Char) : Option Nat :=
  (natural? s).filter (· < bound)

/-- The value of a run of digits behind an optional plus sign, if it is below `bound`. -/
def count? (bound : Nat) : List Char → Option Nat
  | '+' :: s => naturalBelow? bound s
  | s => naturalBelow? bound s

/-- The value of a run of digits behind an optional sign. -/
def integer? : List Char → Option Int
  | '+' :: s => (natural? s).map Int.ofNat
  | '-' :: s => (natural? s).map (-Int.ofNat ·)
  | s => (natural? s).map Int.ofNat

/-- A text less a sign in front of it. -/
def dropSign : List Char → List Char
  | '+' :: s => s
  | '-' :: s => s
  | s => s

/-- Whether a text is one or more digits, among which a point may stand. -/
def isPointed (s : List Char) : Bool :=
  let digits := s.filter (· != '.')
  !digits.isEmpty && digits.all Char.isDigit && s.length ≤ digits.length + 1

/-- Whether a text is a numeral with an optional sign, an optional point and an optional exponent,
or a word for what no digits give. -/
def isReal (s : List Char) : Bool :=
  let s := (dropSign s).map Char.toLower
  let front := s.takeWhile (· != 'e')
  let exponent := s.drop front.length
  ["inf", "infinity", "nan"].contains (String.ofList s) ||
    (isPointed front && (exponent.isEmpty || (natural? (dropSign (exponent.drop 1))).isSome))

/-- A digit `0` to `9` or a letter `a` to `f`, in lower case. -/
def hexDigit (n : Nat) : Char :=
  Nat.digitChar (n % 16)

/-- The value of a hexadecimal digit in either case. -/
def hexValue? (c : Char) : Option Nat :=
  if c.isDigit then some (c.toNat - '0'.toNat)
  else if 'a' ≤ c && c ≤ 'f' then some (c.toNat - 'a'.toNat + 10)
  else if 'A' ≤ c && c ≤ 'F' then some (c.toNat - 'A'.toNat + 10)
  else none

/-- A byte as two hexadecimal digits. -/
def hexByte (b : UInt8) : List Char :=
  [hexDigit (b.toNat / 16), hexDigit b.toNat]

theorem natural?_numeral (n : Nat) : natural? (numeral n) = some n := by
  have hd : (numeral n).all Char.isDigit = true :=
    List.all_eq_true.mpr fun c hc =>
      Nat.isDigit_of_mem_toDigits (by decide) (by decide) hc
  have he : (numeral n).isEmpty = false := by
    simp [numeral, Nat.toDigits_ne_nil]
  rw [natural?, hd, he]
  simp [numeral]

end FunctionSearch.Number
