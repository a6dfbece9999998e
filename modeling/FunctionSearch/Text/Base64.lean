import FunctionSearch.Text.Utf8

/-!
# Bytes as letters

Bytes written with 64 characters of ASCII, three bytes as four characters.

* `symbols`: the characters, in the order of what they stand for;
* `encode`: the written form, whose length is always a multiple of four (`length_encode_mod`).
-/

namespace FunctionSearch.Text.Base64

/-- The characters, in the order of what they stand for. -/
def symbols : List Char :=
  "ABCDEFGHIJKLMNOPQRSTUVWXYZabcdefghijklmnopqrstuvwxyz0123456789+/".toList

/-- What stands in the place of characters that are not needed at the end. -/
def padding : Char := '='

/-- The character for the six lowest bits of a number. -/
def symbol (n : Nat) : Char :=
  symbols.getD (n % 64) padding

/-- The characters for three bytes, put together to one number. -/
def group (n : Nat) : List Char :=
  [symbol (n / 262144), symbol (n / 4096), symbol (n / 64), symbol n]

/-- The written form of bytes. -/
def encode : Bytes → List Char
  | a :: b :: c :: rest => group (65536 * a.toNat + 256 * b.toNat + c.toNat) ++ encode rest
  | [a, b] => (group (65536 * a.toNat + 256 * b.toNat)).take 3 ++ [padding]
  | [a] => (group (65536 * a.toNat)).take 2 ++ [padding, padding]
  | [] => []

theorem length_encode_mod (bytes : Bytes) : (encode bytes).length % 4 = 0 := by
  fun_induction encode bytes with
  | case1 a b c rest ih =>
    simp only [group, List.length_append, List.length_cons, List.length_nil]
    omega
  | case2 => simp [group]
  | case3 => simp [group]
  | case4 => rfl

end FunctionSearch.Text.Base64
