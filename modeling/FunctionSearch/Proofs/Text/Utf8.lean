import FunctionSearch.Text.Utf8
import Mathlib.Data.List.Basic

/-!
# Reading back UTF-8

`encode` and the readings of bytes are inverse to each other.

* `decodeNext_eq_some_iff`: a character is read off the front of bytes exactly when its encoding
  stands there;
* `decode?_eq_some_iff`: bytes are read strictly as a text exactly when they are its encoding, so
  the well-formed bytes are the encodings (`strict?_eq_some_iff`, `strict?_eq_none_iff`);
* `lossy_bytes`: the lossy reading of an encoding is the text.
-/

namespace FunctionSearch.Text

namespace Utf8

/-! ## The bytes of one character -/

/-- A byte that goes on with a character. -/
def IsTail (b : UInt8) : Prop :=
  0x80 ≤ b.toNat ∧ b.toNat ≤ 0xBF

/-- The bytes of the character with a number: as many as the number needs, the leading bits of the
number in the first and six more in each of the others. -/
inductive Encodes : Bytes → Nat → Prop
  | one {b : UInt8} {n : Nat} (hn : n = b.toNat) (hhigh : n ≤ 0x7F) : Encodes [b] n
  | two {b b₁ : UInt8} {n : Nat} (hb : 0xC2 ≤ b.toNat ∧ b.toNat ≤ 0xDF) (h₁ : IsTail b₁)
    (hn : n = (b.toNat - 0xC0) * 64 + (b₁.toNat - 0x80)) : Encodes [b, b₁] n
  | three {b b₁ b₂ : UInt8} {n : Nat} (hb : 0xE0 ≤ b.toNat ∧ b.toNat ≤ 0xEF) (h₁ : IsTail b₁)
    (h₂ : IsTail b₂) (hn : n = ((b.toNat - 0xE0) * 64 + (b₁.toNat - 0x80)) * 64 + (b₂.toNat - 0x80))
    (hlow : 0x800 ≤ n) (hvalid : n < 0xD800 ∨ 0xDFFF < n) : Encodes [b, b₁, b₂] n
  | four {b b₁ b₂ b₃ : UInt8} {n : Nat} (hb : 0xF0 ≤ b.toNat ∧ b.toNat ≤ 0xF4) (h₁ : IsTail b₁)
    (h₂ : IsTail b₂) (h₃ : IsTail b₃)
    (hn : n = (((b.toNat - 0xF0) * 64 + (b₁.toNat - 0x80)) * 64 + (b₂.toNat - 0x80)) * 64 +
      (b₃.toNat - 0x80))
    (hlow : 0x10000 ≤ n) (hvalid : n < 0x110000) : Encodes [b, b₁, b₂, b₃] n

theorem toNat_ofNat {n : Nat} (h : n < 0xD800 ∨ (0xDFFF < n ∧ n < 0x110000)) :
    (Char.ofNat n).val.toNat = n := by
  rw [Char.ofNat, dif_pos h]
  rfl

theorem eq_ofNat {b : UInt8} {n : Nat} (h : b.toNat = n % 256) : b = UInt8.ofNat n := by
  rw [← UInt8.toNat_inj, h, UInt8.toNat_ofNat']

theorem Encodes.eq_encodeChar {bs : Bytes} {n : Nat} (h : Encodes bs n) :
    bs = String.utf8EncodeChar (Char.ofNat n) := by
  cases h with
  | one hn hhigh =>
    rw [String.utf8EncodeChar, toNat_ofNat (by omega), if_pos hhigh]
    simp [hn]
  | two hb h₁ hn =>
    obtain ⟨h₁, h₁'⟩ := h₁
    rw [String.utf8EncodeChar, toNat_ofNat (by omega), if_neg (by omega), if_pos (by omega)]
    simp only [List.cons.injEq, and_true]
    exact ⟨eq_ofNat (by omega), eq_ofNat (by omega)⟩
  | three hb h₁ h₂ hn hlow hvalid =>
    obtain ⟨⟨h₁, h₁'⟩, h₂, h₂'⟩ := And.intro h₁ h₂
    rw [String.utf8EncodeChar, toNat_ofNat (by omega), if_neg (by omega), if_neg (by omega),
      if_pos (by omega)]
    simp only [List.cons.injEq, and_true]
    exact ⟨eq_ofNat (by omega), eq_ofNat (by omega), eq_ofNat (by omega)⟩
  | four hb h₁ h₂ h₃ hn hlow hvalid =>
    obtain ⟨⟨h₁, h₁'⟩, ⟨h₂, h₂'⟩, h₃, h₃'⟩ := And.intro h₁ (And.intro h₂ h₃)
    rw [String.utf8EncodeChar, toNat_ofNat (by omega), if_neg (by omega), if_neg (by omega),
      if_neg (by omega)]
    simp only [List.cons.injEq, and_true]
    exact ⟨eq_ofNat (by omega), eq_ofNat (by omega), eq_ofNat (by omega), eq_ofNat (by omega)⟩

theorem encodes_encodeChar (c : Char) : Encodes (String.utf8EncodeChar c) c.toNat := by
  have hvalid : c.toNat < 0xD800 ∨ (0xDFFF < c.toNat ∧ c.toNat < 0x110000) := c.valid
  have hval : c.val.toNat = c.toNat := rfl
  rw [String.utf8EncodeChar, hval]
  generalize c.toNat = n at hvalid
  split_ifs with h1 h2 h3
  · refine .one ?_ h1
    simp only [UInt8.toNat_ofNat']
    omega
  · refine .two ?_ ?_ ?_ <;> simp only [IsTail, UInt8.toNat_ofNat'] <;> omega
  · refine .three ?_ ?_ ?_ ?_ (by omega) (by omega) <;>
      simp only [IsTail, UInt8.toNat_ofNat'] <;> omega
  · refine .four ?_ ?_ ?_ ?_ ?_ (by omega) (by omega) <;>
      simp only [IsTail, UInt8.toNat_ofNat'] <;> omega

/-! ## Reading one character -/

theorem finish_zero (bits low high : Nat) (rest : Bytes) :
    finish bits low high 0 rest = (some (Char.ofNat bits), rest) := rfl

/-- A byte that is owed has to be there and in its range. -/
theorem finish_succ_eq_some_iff {bits low high count : Nat} {rest rest' : Bytes} {c : Char} :
    finish bits low high (count + 1) rest = (some c, rest') ↔
      ∃ b tail, rest = b :: tail ∧ low ≤ b.toNat ∧ b.toNat ≤ high ∧
        finish (bits * 64 + (b.toNat - 0x80)) 0x80 0xBF count tail = (some c, rest') := by
  cases rest with
  | nil => simp [finish]
  | cons b tail =>
    by_cases hb : low ≤ b.toNat ∧ b.toNat ≤ high
    · simp [finish, hb]
    · have hout : ¬ (low ≤ b.toNat && b.toNat ≤ high) = true := by simpa using hb
      simp only [finish, hout, Bool.false_eq_true, if_false, Prod.mk.injEq, reduceCtorEq, false_and,
        List.cons.injEq, false_iff]
      rintro ⟨b', tail', ⟨rfl, -⟩, hlow, hhigh, -⟩
      exact hb ⟨hlow, hhigh⟩

theorem decodeNext_one {b : UInt8} (hb : b.toNat ≤ 0x7F) (rest : Bytes) :
    decodeNext b rest = (some (Char.ofNat b.toNat), rest) := by
  rw [decodeNext, if_pos (by omega)]

theorem decodeNext_two {b : UInt8} (hb : 0xC2 ≤ b.toNat ∧ b.toNat ≤ 0xDF) (rest : Bytes) :
    decodeNext b rest = finish (b.toNat - 0xC0) 0x80 0xBF 1 rest := by
  have ha : announced? b.toNat = some (b.toNat - 0xC0, 1, 0x80, 0xBF) := by
    simp [announced?, hb]
  rw [decodeNext, if_neg (by omega), ha]

theorem decodeNext_three {b : UInt8} (hb : 0xE0 ≤ b.toNat ∧ b.toNat ≤ 0xEF) (rest : Bytes) :
    decodeNext b rest =
      finish (b.toNat - 0xE0) (if b.toNat = 0xE0 then 0xA0 else 0x80)
        (if b.toNat = 0xED then 0x9F else 0xBF) 2 rest := by
  have ha : announced? b.toNat =
      some (b.toNat - 0xE0, 2, if b.toNat = 0xE0 then 0xA0 else 0x80,
        if b.toNat = 0xED then 0x9F else 0xBF) := by
    simp only [announced?, Bool.and_eq_true, decide_eq_true_eq, beq_iff_eq]
    split_ifs <;> first | omega | simp_all
  rw [decodeNext, if_neg (by omega), ha]

theorem decodeNext_four {b : UInt8} (hb : 0xF0 ≤ b.toNat ∧ b.toNat ≤ 0xF4) (rest : Bytes) :
    decodeNext b rest =
      finish (b.toNat - 0xF0) (if b.toNat = 0xF0 then 0x90 else 0x80)
        (if b.toNat = 0xF4 then 0x8F else 0xBF) 3 rest := by
  have ha : announced? b.toNat =
      some (b.toNat - 0xF0, 3, if b.toNat = 0xF0 then 0x90 else 0x80,
        if b.toNat = 0xF4 then 0x8F else 0xBF) := by
    simp only [announced?, Bool.and_eq_true, decide_eq_true_eq, beq_iff_eq]
    split_ifs <;> first | omega | simp_all
  rw [decodeNext, if_neg (by omega), ha]

/-- No other byte starts a character. -/
theorem decodeNext_of_not_first {b : UInt8} (hb : 0x80 ≤ b.toNat ∧ b.toNat ≤ 0xC1 ∨ 0xF5 ≤ b.toNat)
    (rest : Bytes) : decodeNext b rest = (none, rest) := by
  have ha : announced? b.toNat = none := by
    simp only [announced?, Bool.and_eq_true, decide_eq_true_eq, beq_iff_eq]
    split_ifs <;> first | omega | rfl
  rw [decodeNext, if_neg (by omega), ha]

theorem Encodes.decodeNext_append {b : UInt8} {bs : Bytes} {n : Nat} (h : Encodes (b :: bs) n)
    (rest : Bytes) : decodeNext b (bs ++ rest) = (some (Char.ofNat n), rest) := by
  cases h with
  | one hn hhigh => rw [List.nil_append, decodeNext_one (by omega), hn]
  | two hb h₁ hn =>
    rw [decodeNext_two hb, finish_succ_eq_some_iff]
    exact ⟨_, _, rfl, h₁.1, h₁.2, by rw [finish_zero, hn]; rfl⟩
  | three hb h₁ h₂ hn hlow hvalid =>
    obtain ⟨⟨h₁, h₁'⟩, h₂, h₂'⟩ := And.intro h₁ h₂
    rw [decodeNext_three hb, finish_succ_eq_some_iff]
    refine ⟨_, _, rfl, by split_ifs <;> omega, by split_ifs <;> omega, ?_⟩
    rw [finish_succ_eq_some_iff]
    exact ⟨_, _, rfl, h₂, h₂', by rw [finish_zero, hn]; rfl⟩
  | four hb h₁ h₂ h₃ hn hlow hvalid =>
    obtain ⟨⟨h₁, h₁'⟩, ⟨h₂, h₂'⟩, h₃, h₃'⟩ := And.intro h₁ (And.intro h₂ h₃)
    rw [decodeNext_four hb, finish_succ_eq_some_iff]
    refine ⟨_, _, rfl, by split_ifs <;> omega, by split_ifs <;> omega, ?_⟩
    rw [finish_succ_eq_some_iff]
    refine ⟨_, _, rfl, h₂, h₂', ?_⟩
    rw [finish_succ_eq_some_iff]
    exact ⟨_, _, rfl, h₃, h₃', by rw [finish_zero, hn]; rfl⟩

theorem exists_encodes_of_decodeNext {b : UInt8} {rest rest' : Bytes} {c : Char}
    (h : decodeNext b rest = (some c, rest')) :
    ∃ bs n, Encodes (b :: bs) n ∧ c = Char.ofNat n ∧ rest = bs ++ rest' := by
  have hb : b.toNat ≤ 0x7F ∨ (0xC2 ≤ b.toNat ∧ b.toNat ≤ 0xDF) ∨
      (0xE0 ≤ b.toNat ∧ b.toNat ≤ 0xEF) ∨ (0xF0 ≤ b.toNat ∧ b.toNat ≤ 0xF4) := by
    by_contra hb
    simp [decodeNext_of_not_first (b := b) (by omega)] at h
  rcases hb with hb | hb | hb | hb
  · rw [decodeNext_one hb] at h
    obtain ⟨rfl, rfl⟩ : Char.ofNat b.toNat = c ∧ rest = rest' := by simpa using h
    exact ⟨[], _, .one rfl hb, rfl, rfl⟩
  · rw [decodeNext_two hb, finish_succ_eq_some_iff] at h
    obtain ⟨b₁, _, rfl, h₁, h₁', h⟩ := h
    obtain ⟨rfl, rfl⟩ : Char.ofNat _ = c ∧ _ = rest' := by simpa [finish_zero] using h
    exact ⟨[b₁], _, .two hb ⟨h₁, h₁'⟩ rfl, rfl, rfl⟩
  · rw [decodeNext_three hb, finish_succ_eq_some_iff] at h
    obtain ⟨b₁, _, rfl, h₁, h₁', h⟩ := h
    rw [finish_succ_eq_some_iff] at h
    obtain ⟨b₂, _, rfl, h₂, h₂', h⟩ := h
    obtain ⟨rfl, rfl⟩ : Char.ofNat _ = c ∧ _ = rest' := by simpa [finish_zero] using h
    refine ⟨[b₁, b₂], _, .three hb ⟨?_, ?_⟩ ⟨h₂, h₂'⟩ rfl ?_ ?_, rfl, rfl⟩
    all_goals split_ifs at h₁ h₁' <;> omega
  · rw [decodeNext_four hb, finish_succ_eq_some_iff] at h
    obtain ⟨b₁, _, rfl, h₁, h₁', h⟩ := h
    rw [finish_succ_eq_some_iff] at h
    obtain ⟨b₂, _, rfl, h₂, h₂', h⟩ := h
    rw [finish_succ_eq_some_iff] at h
    obtain ⟨b₃, _, rfl, h₃, h₃', h⟩ := h
    obtain ⟨rfl, rfl⟩ : Char.ofNat _ = c ∧ _ = rest' := by simpa [finish_zero] using h
    refine ⟨[b₁, b₂, b₃], _, .four hb ⟨?_, ?_⟩ ⟨h₂, h₂'⟩ ⟨h₃, h₃'⟩ rfl ?_ ?_, rfl, rfl⟩
    all_goals split_ifs at h₁ h₁' <;> omega

/-- **A character is read off the front of bytes exactly when its encoding stands there.** -/
theorem decodeNext_eq_some_iff {b : UInt8} {rest rest' : Bytes} {c : Char} :
    decodeNext b rest = (some c, rest') ↔ b :: rest = String.utf8EncodeChar c ++ rest' := by
  constructor
  · intro h
    obtain ⟨bs, n, hbs, rfl, rfl⟩ := exists_encodes_of_decodeNext h
    rw [← hbs.eq_encodeChar, List.cons_append]
  · intro h
    have hbs := encodes_encodeChar c
    cases hc : String.utf8EncodeChar c with
    | nil => simp [hc] at hbs; cases hbs
    | cons b' bs =>
      rw [hc] at h hbs
      obtain ⟨rfl, rfl⟩ : b = b' ∧ rest = bs ++ rest' := by simpa using h
      rw [hbs.decodeNext_append, Char.ofNat_toNat]

/-! ## Whole texts -/

theorem decodeFrom_eq_append (done : List (Option Char)) (bytes : Bytes) :
    decodeFrom done bytes = done.reverse ++ decodePieces bytes := by
  induction hn : bytes.length using Nat.strongRecOn generalizing done bytes with
  | ind n ih =>
    cases bytes with
    | nil => simp [decodePieces, decodeFrom]
    | cons b rest =>
      have hlt : (decodeNext b rest).2.length < n := by
        have := length_decodeNext_le b rest
        simp only [List.length_cons] at hn
        omega
      rw [decodePieces, decodeFrom, decodeFrom, ih _ hlt _ _ rfl, ih _ hlt [_] _ rfl]
      simp

theorem decodePieces_nil : decodePieces [] = [] := by
  simp [decodePieces, decodeFrom]

theorem decodePieces_cons (b : UInt8) (rest : Bytes) :
    decodePieces (b :: rest) = (decodeNext b rest).1 :: decodePieces (decodeNext b rest).2 := by
  rw [decodePieces, decodeFrom, decodeFrom_eq_append]
  rfl

theorem decodePieces_encodeChar_append (c : Char) (rest : Bytes) :
    decodePieces (String.utf8EncodeChar c ++ rest) = some c :: decodePieces rest := by
  cases hc : String.utf8EncodeChar c with
  | nil => exact absurd hc String.utf8EncodeChar_ne_nil
  | cons b bs =>
    have hnext : decodeNext b (bs ++ rest) = (some c, rest) :=
      decodeNext_eq_some_iff.mpr (by rw [hc, List.cons_append])
    rw [List.cons_append, decodePieces_cons, hnext]

theorem encode_cons (c : Char) (s : List Char) :
    encode (c :: s) = String.utf8EncodeChar c ++ encode s :=
  List.flatMap_cons

theorem decodePieces_encode_append (s : List Char) (rest : Bytes) :
    decodePieces (encode s ++ rest) = s.map some ++ decodePieces rest := by
  induction s with
  | nil => rfl
  | cons c s ih =>
    rw [encode_cons, List.append_assoc, decodePieces_encodeChar_append, ih, List.map_cons,
      List.cons_append]

theorem decodePieces_encode (s : List Char) : decodePieces (encode s) = s.map some := by
  have happend := decodePieces_encode_append s []
  rwa [decodePieces_nil, List.append_nil, List.append_nil] at happend

theorem eq_encode_of_decodePieces {bytes : Bytes} {s : List Char}
    (h : decodePieces bytes = s.map some) : bytes = encode s := by
  induction s generalizing bytes with
  | nil =>
    cases bytes with
    | nil => rfl
    | cons b rest => simp [decodePieces_cons] at h
  | cons c s ih =>
    cases bytes with
    | nil => simp [decodePieces_nil] at h
    | cons b rest =>
      simp only [decodePieces_cons, List.map_cons, List.cons.injEq] at h
      obtain ⟨hc, hrest⟩ := h
      have hnext : decodeNext b rest = (some c, (decodeNext b rest).2) := by rw [← hc]
      rw [decodeNext_eq_some_iff.mp hnext, ih hrest, encode_cons]

theorem decodePieces_eq_map_some_iff {bytes : Bytes} {s : List Char} :
    decodePieces bytes = s.map some ↔ bytes = encode s :=
  ⟨eq_encode_of_decodePieces, fun h => h ▸ decodePieces_encode s⟩

theorem eq_map_some_filterMap {α : Type} {pieces : List (Option α)}
    (h : pieces.all (·.isSome) = true) : pieces = (pieces.filterMap id).map some := by
  induction pieces with
  | nil => rfl
  | cons piece pieces ih =>
    simp only [List.all_cons, Bool.and_eq_true, Option.isSome_iff_exists] at h
    obtain ⟨⟨a, rfl⟩, hrest⟩ := h
    rw [List.filterMap_cons_some (f := id) rfl, List.map_cons, ← ih hrest]

/-- **Bytes are read strictly as a text exactly when they are its encoding.** -/
theorem decode?_eq_some_iff {bytes : Bytes} {s : List Char} :
    decode? bytes = some s ↔ bytes = encode s := by
  rw [← decodePieces_eq_map_some_iff, decode?]
  generalize decodePieces bytes = pieces
  constructor
  · intro h
    split_ifs at h with hall
    obtain rfl : pieces.filterMap id = s := Option.some.inj h
    exact eq_map_some_filterMap hall
  · rintro rfl
    simp

theorem decodeLossy_encode (s : List Char) : decodeLossy (encode s) = s := by
  simp [decodeLossy, decodePieces_encode, Function.comp_def]

theorem encode_append (s t : List Char) : encode (s ++ t) = encode s ++ encode t :=
  List.flatMap_append

/-- An ASCII byte in an encoding is a character of the text. -/
theorem ofNat_mem_of_mem_encode {b : UInt8} {s : List Char} (hb : b.toNat < 0x80)
    (h : b ∈ encode s) : Char.ofNat b.toNat ∈ s := by
  obtain ⟨c, hc, hmem⟩ := List.mem_flatMap.mp h
  have hcode := encodes_encodeChar c
  have hbyte : ∀ b' ∈ String.utf8EncodeChar c, b'.toNat < 0x80 → b'.toNat = c.toNat := by
    generalize String.utf8EncodeChar c = bs at hcode
    cases hcode with
    | one hn _ => simp [hn]
    | two _ h₁ _ =>
      simp only [IsTail, List.mem_cons, List.not_mem_nil, or_false] at h₁ ⊢
      rintro b' (rfl | rfl) hlow <;> omega
    | three _ h₁ h₂ _ _ _ =>
      simp only [IsTail, List.mem_cons, List.not_mem_nil, or_false] at h₁ h₂ ⊢
      rintro b' (rfl | rfl | rfl) hlow <;> omega
    | four _ h₁ h₂ h₃ _ _ _ =>
      simp only [IsTail, List.mem_cons, List.not_mem_nil, or_false] at h₁ h₂ h₃ ⊢
      rintro b' (rfl | rfl | rfl | rfl) hlow <;> omega
  rw [hbyte b hmem hb, Char.ofNat_toNat]
  exact hc

end Utf8

/-! ## Strings -/

/-- **Bytes are a string exactly when they are its encoding.** -/
theorem strict?_eq_some_iff {b : Bytes} {s : String} : strict? b = some s ↔ b = bytes s := by
  simp only [strict?, Option.map_eq_some_iff, Utf8.decode?_eq_some_iff, bytes]
  constructor
  · rintro ⟨t, rfl, rfl⟩
    rw [String.toList_ofList]
  · rintro rfl
    exact ⟨s.toList, rfl, String.ofList_toList⟩

/-- **Bytes are no string exactly when they are the encoding of none.** -/
theorem strict?_eq_none_iff {b : Bytes} : strict? b = none ↔ ∀ s, b ≠ bytes s := by
  simp only [Option.eq_none_iff_forall_ne_some, ne_eq, strict?_eq_some_iff]

theorem lossy_bytes (s : String) : lossy (bytes s) = s := by
  rw [lossy, bytes, Utf8.decodeLossy_encode, String.ofList_toList]

end FunctionSearch.Text
