/-!
# UTF-8

Texts as bytes and back.

* `encode`: the bytes of a text;
* `decode?`: the text of bytes that are well formed, and nothing for all others;
* `decodeLossy`: a text for any bytes, in which every maximal ill-formed part stands as U+FFFD.

Both readings come from `decodePieces`, which reads the bytes as characters and ill-formed parts.
A first byte announces how many bytes follow it and in which range the next one lies
(`announced?`), so overlong forms, surrogates and values above U+10FFFF are cut off at their
second byte.
-/

namespace FunctionSearch

/-- A sequence of bytes. -/
abbrev Bytes := List UInt8

namespace Text.Utf8

/-- The bytes of a text. -/
def encode (s : List Char) : Bytes :=
  s.flatMap String.utf8EncodeChar

/-- What a first byte above 0x7F announces: the leading bits of the character, the number of
bytes that follow, and the least and greatest value of the next of them. -/
def announced? (b : Nat) : Option (Nat × Nat × Nat × Nat) :=
  if 0xC2 ≤ b && b ≤ 0xDF then some (b - 0xC0, 1, 0x80, 0xBF)
  else if b == 0xE0 then some (0x0, 2, 0xA0, 0xBF)
  else if b == 0xED then some (0xD, 2, 0x80, 0x9F)
  else if 0xE1 ≤ b && b ≤ 0xEF then some (b - 0xE0, 2, 0x80, 0xBF)
  else if b == 0xF0 then some (0x0, 3, 0x90, 0xBF)
  else if 0xF1 ≤ b && b ≤ 0xF3 then some (b - 0xF0, 3, 0x80, 0xBF)
  else if b == 0xF4 then some (0x4, 3, 0x80, 0x8F)
  else none

/-- Read the `count` bytes that are still owed to a character whose bits so far are `bits`. The
reading stops in front of the first byte outside the range it must be in. -/
def finish (bits low high : Nat) : (count : Nat) → Bytes → Option Char × Bytes
  | 0, rest => (some (Char.ofNat bits), rest)
  | _ + 1, [] => (none, [])
  | count + 1, b :: rest =>
    if low ≤ b.toNat && b.toNat ≤ high then
      finish (bits * 64 + (b.toNat - 0x80)) 0x80 0xBF count rest
    else (none, b :: rest)

/-- The character that starts with byte `b`, or none for an ill-formed part, and the bytes after
it. -/
def decodeNext (b : UInt8) (rest : Bytes) : Option Char × Bytes :=
  if b.toNat < 0x80 then (some (Char.ofNat b.toNat), rest)
  else match announced? b.toNat with
    | some (bits, count, low, high) => finish bits low high count rest
    | none => (none, rest)

theorem length_finish_le (bits low high count : Nat) (rest : Bytes) :
    (finish bits low high count rest).2.length ≤ rest.length := by
  induction count generalizing bits low high rest with
  | zero => simp [finish]
  | succ n ih =>
    cases rest with
    | nil => simp [finish]
    | cons b rest =>
      simp only [finish]
      split
      · exact Nat.le_trans (ih ..) (by simp)
      · simp

theorem length_decodeNext_le (b : UInt8) (rest : Bytes) :
    (decodeNext b rest).2.length ≤ rest.length := by
  unfold decodeNext
  split
  · simp
  · split
    · exact length_finish_le ..
    · simp

/-- Read on; `done` holds, in reverse, what was read before. -/
def decodeFrom (done : List (Option Char)) : Bytes → List (Option Char)
  | [] => done.reverse
  | b :: rest =>
    let step := decodeNext b rest
    decodeFrom (step.1 :: done) step.2
termination_by bytes => bytes.length
decreasing_by
  have := length_decodeNext_le b rest
  simp only [List.length_cons]; omega

/-- The characters of a byte sequence in order, each maximal ill-formed part being `none`. -/
def decodePieces (bytes : Bytes) : List (Option Char) :=
  decodeFrom [] bytes

/-- The text with these bytes, U+FFFD standing for each maximal ill-formed part. -/
def decodeLossy (bytes : Bytes) : List Char :=
  (decodePieces bytes).map (·.getD '\uFFFD')

/-- The text with these bytes, if they are well formed. -/
def decode? (bytes : Bytes) : Option (List Char) :=
  let pieces := decodePieces bytes
  if pieces.all (·.isSome) then some (pieces.filterMap id) else none

end Text.Utf8

end FunctionSearch

namespace FunctionSearch.Text

/-- The bytes of a string. -/
def bytes (s : String) : Bytes :=
  Utf8.encode s.toList

/-- The string that bytes spell, U+FFFD standing for each maximal ill-formed part. -/
def lossy (b : Bytes) : String :=
  String.ofList (Utf8.decodeLossy b)

/-- The string that bytes spell, if they are well formed. -/
def strict? (b : Bytes) : Option String :=
  (Utf8.decode? b).map String.ofList

end FunctionSearch.Text
