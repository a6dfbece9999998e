/-!
# Double precision and its shortest decimals

Non-negative numbers in the binary format with a significand of 53 bits, as exact fractions of
natural numbers.

* `Binary64.nearest`: the number of the format nearest to a fraction, a tie going to the even
  significand;
* `Binary64.add` and `Binary64.times`: the rounded sum, and the rounded product with a power of ten;
* `Binary64.shortest`: the fewest decimal digits that read back as the number, and of those the
  nearest to it;
* `Binary64.text`: these digits in positional notation below `10 ^ 16` and from `10 ^ (-5)` on, and
  in scientific notation otherwise.

The range is that of sums of whole seconds below `2 ^ 64` and of billionths, so exponents do not
overflow and numbers are zero or normal.
-/

namespace FunctionSearch.Number

/-- The number `significand * 2 ^ exponent`. -/
structure Binary64 where
  significand : Nat
  exponent : Int
  deriving DecidableEq, Repr

namespace Binary64

/-- The quotient of two natural numbers as the nearest natural number, a tie going to the even
one. -/
def roundDiv (num den : Nat) : Nat :=
  let q := num / den
  let r := num % den
  if 2 * r < den || (2 * r == den && q % 2 == 0) then q else q + 1

/-- A fraction times `2 ^ (-e)`. -/
def scaled (num den : Nat) (e : Int) : Nat × Nat :=
  if 0 ≤ e then (num, den * Nat.pow 2 e.toNat) else (num * Nat.pow 2 (-e).toNat, den)

/-- The number nearest to `num / den`. -/
def nearest (num den : Nat) : Binary64 :=
  if num == 0 || den == 0 then ⟨0, 0⟩
  else
    -- the quotient lies in `[2 ^ (k - 1), 2 ^ (k + 1))`
    let k : Int := (num.log2 : Int) - (den.log2 : Int)
    let (n, d) := scaled num den (k - 53)
    let e : Int := if n < d * Nat.pow 2 53 then k - 53 else k - 52
    let (n, d) := scaled num den e
    ⟨roundDiv n d, e⟩

/-- The exact value as a fraction. -/
def fraction (x : Binary64) : Nat × Nat :=
  if 0 ≤ x.exponent then (x.significand * Nat.pow 2 x.exponent.toNat, 1)
  else (x.significand, Nat.pow 2 (-x.exponent).toNat)

/-- The rounded sum. -/
def add (x y : Binary64) : Binary64 :=
  let (n, d) := x.fraction
  let (m, c) := y.fraction
  nearest (n * c + m * d) (d * c)

/-- The product with `10 ^ power`, where the power or its inverse is rounded first. -/
def times (x : Binary64) (power : Int) : Binary64 :=
  let (n, d) := x.fraction
  let (m, c) := (nearest (Nat.pow 10 power.natAbs) 1).fraction
  if 0 ≤ power then nearest (n * m) (d * c) else nearest (n * c) (d * m)

/-- Whether the fraction reads as `x`: it lies in the interval that rounds to `x`, whose ends belong
to it when the significand is even. -/
def readsAs (x : Binary64) (num den : Nat) : Bool :=
  let (n, d) := scaled num den (x.exponent - 2)
  -- in quarters of a unit in the last place; above a power of two the gap below is half as wide
  let above := 4 * x.significand + 2
  let below :=
    if x.significand == Nat.pow 2 52 then 4 * x.significand - 1 else 4 * x.significand - 2
  if x.significand % 2 == 0 then below * d ≤ n && n ≤ above * d
  else below * d < n && n < above * d

/-- The number of decimal digits in front of the point: `10 ^ (k - 1) ≤ x < 10 ^ k`. -/
def magnitude (x : Binary64) : Int :=
  let (n, d) := x.fraction
  if d ≤ n then (Nat.toDigits 10 (n / d)).length
  else 1 - ((Nat.toDigits 10 ((d + n - 1) / n - 1)).length : Int)

/-- A decimal `digits * 10 ^ power` as a fraction. -/
def decimal (digits : Nat) (power : Int) : Nat × Nat :=
  if 0 ≤ power then (digits * Nat.pow 10 power.toNat, 1) else (digits, Nat.pow 10 (-power).toNat)

/-- The decimal with `count` digits that reads as `x` and is nearest to it, if there is one. -/
def withDigits? (x : Binary64) (count : Nat) : Option (Nat × Int) :=
  let power := x.magnitude - count
  let (n, d) := x.fraction
  let (p, q) := decimal 1 power
  let low := n * q / (d * p)
  let close := roundDiv (n * q) (d * p)
  let far := if close == low then low + 1 else low
  [close, far].findSome? fun digits =>
    let (a, b) := decimal digits power
    if x.readsAs a b then some (digits, power) else none

/-- The fewest digits that read back, with the power of ten of the last one. -/
def shortest (x : Binary64) : Nat × Int :=
  ((List.range 17).findSome? fun i => x.withDigits? (i + 1)).getD (0, 0)

/-- Digits less the zeros at their end. -/
def dropZeros (digits : List Char) : List Char :=
  (digits.reverse.dropWhile (· == '0')).reverse

/-- The shortest decimal text. -/
def text (x : Binary64) : String :=
  if x.significand == 0 then "0.0"
  else
    let (n, power) := x.shortest
    let all := Nat.toDigits 10 n
    let point : Int := all.length + power
    let digits := dropZeros all
    let zeros (k : Nat) : List Char := List.replicate k '0'
    String.ofList <|
      if 0 < point && point ≤ 16 then
        let k := point.toNat
        if digits.length ≤ k then digits ++ zeros (k - digits.length) ++ ['.', '0']
        else digits.take k ++ ['.'] ++ digits.drop k
      else if -5 < point && point ≤ 0 then
        ['0', '.'] ++ zeros (-point).toNat ++ digits
      else
        let tail := if digits.length ≤ 1 then [] else '.' :: digits.drop 1
        digits.take 1 ++ tail ++ ['e'] ++ (toString (point - 1)).toList

end Binary64

end FunctionSearch.Number
