import FunctionSearch.Proofs.Text.Occurrences
import FunctionSearch.Proofs.Text.Utf8

/-!
# Where bytes can be cut

Bytes and their characters can be cut in the same places.

* An ASCII byte is a boundary in any bytes: what stands in front of it and what stands behind it are
  read apart, well formed or not (`decodePieces_append_ascii`). A character that is broken off in
  front of it ends there.
* In the encoding of a text, the encoding of another text begins and ends between characters
  (`exists_of_encode_eq_append`), since a byte that goes on with a character starts none. So what
  occurs in the bytes is what occurs in the text (`isFirstSplit_encode`, `occurrences_encode`).
-/

namespace FunctionSearch.Text.Utf8

/-! ## ASCII bytes -/

theorem le_of_announced? {b bits count low high : Nat}
    (h : announced? b = some (bits, count, low, high)) : 0x80 ≤ low := by
  simp only [announced?] at h
  split_ifs at h
  all_goals
    simp only [Option.some.injEq, Prod.mk.injEq] at h
    omega

/-- No byte that is owed to a character is looked for behind an ASCII byte. -/
theorem finish_append_ascii {x : UInt8} (hx : x.toNat < 0x80) {low : Nat} (hlow : 0x80 ≤ low)
    (bits high count : Nat) (front behind : Bytes) :
    finish bits low high count (front ++ x :: behind) =
      ((finish bits low high count front).1,
        (finish bits low high count front).2 ++ x :: behind) := by
  induction count generalizing bits low high front with
  | zero => rfl
  | succ count ih =>
    cases front with
    | nil =>
      have hout : ¬ (low ≤ x.toNat && x.toNat ≤ high) = true := by
        simp only [Bool.and_eq_true, decide_eq_true_eq]
        omega
      rw [List.nil_append, finish, finish, if_neg hout, List.nil_append]
    | cons b front =>
      rw [List.cons_append, finish, finish]
      split
      · exact ih (Nat.le_refl _) _ _ front
      · rfl

theorem decodeNext_append_ascii {x : UInt8} (hx : x.toNat < 0x80) (b : UInt8)
    (front behind : Bytes) :
    decodeNext b (front ++ x :: behind) =
      ((decodeNext b front).1, (decodeNext b front).2 ++ x :: behind) := by
  rw [decodeNext, decodeNext]
  split
  · rfl
  · split
    next h => exact finish_append_ascii hx (le_of_announced? h) _ _ _ front behind
    · rfl

/-- **Bytes are read apart in front of an ASCII byte and behind it.** -/
theorem decodePieces_append_ascii {x : UInt8} (hx : x.toNat < 0x80) (front behind : Bytes) :
    decodePieces (front ++ x :: behind) =
      decodePieces front ++ some (Char.ofNat x.toNat) :: decodePieces behind := by
  induction hlength : front.length using Nat.strong_induction_on generalizing front with
  | _ length ih =>
    cases front with
    | nil =>
      rw [List.nil_append, decodePieces_nil, List.nil_append, decodePieces_cons,
        decodeNext_one (by omega)]
    | cons b front =>
      have hle := length_decodeNext_le b front
      rw [List.length_cons] at hlength
      rw [List.cons_append, decodePieces_cons, decodePieces_cons, decodeNext_append_ascii hx,
        ih _ (by omega) _ rfl, List.cons_append]

theorem decodeLossy_append_feed (front behind : Bytes) :
    decodeLossy (front ++ 0x0A :: behind) = decodeLossy front ++ '\n' :: decodeLossy behind := by
  rw [decodeLossy, decodePieces_append_ascii (by decide), List.map_append, List.map_cons]
  rfl

/-! ## Texts within texts -/

/-- Only the first byte of a character starts one. -/
theorem Encodes.isTail_iff {b : UInt8} {bs : Bytes} {n : Nat} (h : Encodes (b :: bs) n) :
    ¬ IsTail b ∧ ∀ b' ∈ bs, IsTail b' := by
  cases h with
  | one hn hhigh =>
    refine ⟨fun htail => ?_, List.forall_mem_nil _⟩
    have := htail.1
    omega
  | two hb h₁ _ =>
    refine ⟨fun htail => ?_, by simpa using h₁⟩
    have := htail.2
    omega
  | three hb h₁ h₂ _ _ _ =>
    refine ⟨fun htail => ?_, by simpa using And.intro h₁ h₂⟩
    have := htail.2
    omega
  | four hb h₁ h₂ h₃ _ _ _ =>
    refine ⟨fun htail => ?_, by simpa using And.intro h₁ (And.intro h₂ h₃)⟩
    have := htail.2
    omega

/-- A character begins with a byte that is no other character's continuation. -/
theorem exists_encodeChar_eq_cons (c : Char) : ∃ b bs, String.utf8EncodeChar c = b :: bs ∧
    ¬ IsTail b ∧ ∀ b' ∈ bs, IsTail b' := by
  obtain ⟨b, bs, hc⟩ := List.exists_cons_of_ne_nil (String.utf8EncodeChar_ne_nil (c := c))
  have h := encodes_encodeChar c
  rw [hc] at h
  exact ⟨b, bs, hc, h.isTail_iff⟩

theorem encode_ne_nil {s : List Char} (h : s ≠ []) : encode s ≠ [] := by
  obtain ⟨c, s, rfl⟩ := List.exists_cons_of_ne_nil h
  rw [encode_cons]
  exact List.append_ne_nil_of_left_ne_nil String.utf8EncodeChar_ne_nil _

/-- A text whose encoding begins with that of another one begins with the other one. -/
theorem exists_of_encode_eq_encode_append {s p : List Char} {rest : Bytes}
    (h : encode s = encode p ++ rest) : ∃ q, s = p ++ q ∧ rest = encode q := by
  have hpieces := decodePieces_encode_append p rest
  rw [← h, decodePieces_encode] at hpieces
  obtain ⟨p', q, rfl, hp, hq⟩ := List.map_eq_append_iff.mp hpieces
  obtain rfl : p' = p := List.map_injective_iff.mpr (fun _ _ => Option.some.inj) hp
  exact ⟨q, rfl, eq_encode_of_decodePieces hq.symm⟩

/-- A text does not begin among bytes that go on with a character. -/
theorem exists_append_of_isTail {bs rest front behind : Bytes} {p : List Char} (hp : p ≠ [])
    (htail : ∀ b ∈ bs, IsTail b) (h : bs ++ rest = front ++ (encode p ++ behind)) :
    ∃ t, front = bs ++ t ∧ rest = t ++ (encode p ++ behind) := by
  obtain ⟨t, rfl, ht⟩ | ⟨t, rfl, ht⟩ := List.append_eq_append_iff.mp h
  · exact ⟨t, rfl, ht⟩
  · rcases t with _ | ⟨x, t⟩
    · exact ⟨[], by simp, ht.symm⟩
    · obtain ⟨c, p, rfl⟩ := List.exists_cons_of_ne_nil hp
      obtain ⟨b, bs, hc, hfirst, -⟩ := exists_encodeChar_eq_cons c
      rw [encode_cons, hc, List.append_assoc, List.cons_append, List.cons_append,
        List.cons_eq_cons] at ht
      exact absurd (htail x (by simp)) (ht.1 ▸ hfirst)

/-- **A text stands in the bytes of another one where it stands in the other one.** -/
theorem exists_of_encode_eq_append {s p : List Char} (hp : p ≠ []) {front behind : Bytes}
    (h : encode s = front ++ encode p ++ behind) :
    ∃ u v, s = u ++ p ++ v ∧ front = encode u ∧ behind = encode v := by
  rw [List.append_assoc] at h
  induction s generalizing front with
  | nil =>
    have hnil := (List.append_eq_nil_iff.mp (List.append_eq_nil_iff.mp h.symm).2).1
    exact absurd hnil (encode_ne_nil hp)
  | cons c s ih =>
    rcases front with _ | ⟨x, front⟩
    · obtain ⟨v, hs, hv⟩ := exists_of_encode_eq_encode_append h
      exact ⟨[], v, hs, rfl, hv⟩
    · -- the text begins behind the first character
      obtain ⟨b, bs, hc, -, htail⟩ := exists_encodeChar_eq_cons c
      rw [encode_cons, hc, List.cons_append, List.cons_append, List.cons_eq_cons] at h
      obtain ⟨rfl, h⟩ := h
      obtain ⟨t, rfl, ht⟩ := exists_append_of_isTail hp htail h
      obtain ⟨u, v, rfl, rfl, rfl⟩ := ih ht
      exact ⟨c :: u, v, rfl, by rw [encode_cons, hc, List.cons_append], rfl⟩

theorem isInfix_encode_iff {pattern s : List Char} (hpattern : pattern ≠ []) :
    encode pattern <:+: encode s ↔ pattern <:+: s := by
  constructor
  · rintro ⟨front, behind, h⟩
    obtain ⟨u, v, rfl, -, -⟩ := exists_of_encode_eq_append hpattern h.symm
    exact ⟨u, v, rfl⟩
  · rintro ⟨u, v, rfl⟩
    exact ⟨encode u, encode v, by rw [encode_append, encode_append]⟩

/-- **What is found first in a text is found first in its bytes.** -/
theorem isFirstSplit_encode {pattern s before after : List Char} (hpattern : pattern ≠ [])
    (h : IsFirstSplit pattern s before after) :
    IsFirstSplit (encode pattern) (encode s) (encode before) (encode after) := by
  refine ⟨by rw [h.eq, encode_append, encode_append], fun p q hpq => ?_⟩
  obtain ⟨u, v, rfl, rfl, rfl⟩ := exists_of_encode_eq_append hpattern hpq
  have hbefore : before <+: u ++ pattern ++ v :=
    ⟨pattern ++ after, by rw [← List.append_assoc, ← h.eq]⟩
  have hu : u <+: u ++ pattern ++ v := ⟨pattern ++ v, by rw [List.append_assoc]⟩
  obtain ⟨t, rfl⟩ := List.prefix_of_prefix_length_le hbefore hu (h.le u v rfl)
  rw [encode_append, List.length_append]
  exact Nat.le_add_right _ _

/-- **A text has as many occurrences as its bytes.** -/
theorem occurrences_encode {pattern : List Char} (hpattern : pattern ≠ []) (s : List Char) :
    occurrences (encode pattern) (encode s) = occurrences pattern s := by
  obtain ⟨t, h⟩ := exists_replaces hpattern [] s
  generalize occurrences pattern s = n at h
  induction h with
  | none hnot => exact occurrences_of_not_isInfix fun h => hnot ((isInfix_encode_iff hpattern).mp h)
  | next hfirst _ ih =>
    rw [occurrences_of_isFirstSplit (encode_ne_nil hpattern) (isFirstSplit_encode hpattern hfirst),
      ih]

end FunctionSearch.Text.Utf8
