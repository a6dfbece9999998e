import FunctionSearch.Number.Decimal
import Mathlib.Data.List.Induction

/-!
# What numerals denote

The numbers that digits denote, said without the reading of them.

* `IsDecimal` says that a text is a number in decimal, digit by digit from the left, and `IsSigned`
  that it is an integer behind an optional sign.
* `natural?_eq_some_iff`, `naturalBelow?_eq_some_iff`, `integer?_eq_some_iff`: what is read is what
  is denoted, and nothing else is read.
-/

namespace FunctionSearch.Number

/-- One or more ASCII digits that denote a number in decimal. Zeros in front do not matter. -/
inductive IsDecimal : List Char → Nat → Prop
  | digit {c : Char} (hc : c.isDigit = true) : IsDecimal [c] (c.toNat - '0'.toNat)
  | concat {s : List Char} {n : Nat} {c : Char} (hs : IsDecimal s n) (hc : c.isDigit = true) :
    IsDecimal (s ++ [c]) (10 * n + (c.toNat - '0'.toNat))

/-- Digits behind an optional sign that denote an integer. -/
inductive IsSigned : List Char → Int → Prop
  | bare {s : List Char} {n : Nat} (h : IsDecimal s n) : IsSigned s n
  | plus {s : List Char} {n : Nat} (h : IsDecimal s n) : IsSigned ('+' :: s) n
  | minus {s : List Char} {n : Nat} (h : IsDecimal s n) : IsSigned ('-' :: s) (-n)

theorem IsDecimal.ne_nil {s : List Char} {n : Nat} (h : IsDecimal s n) : s ≠ [] := by
  cases h with
  | digit => exact List.cons_ne_nil _ _
  | concat => exact List.concat_ne_nil _ _

theorem IsSigned.ne_nil {s : List Char} {value : Int} (h : IsSigned s value) : s ≠ [] := by
  cases h with
  | bare h => exact h.ne_nil
  | plus | minus => exact List.cons_ne_nil _ _

theorem IsDecimal.isDigit_of_mem {s : List Char} {n : Nat} (h : IsDecimal s n) :
    ∀ c ∈ s, c.isDigit = true := by
  induction h with
  | digit hc => exact List.forall_mem_singleton.mpr hc
  | concat _ hc ih => exact List.forall_mem_append.mpr ⟨ih, List.forall_mem_singleton.mpr hc⟩

theorem IsDecimal.ofDigitChars_eq {s : List Char} {n : Nat} (h : IsDecimal s n) :
    Nat.ofDigitChars 10 s 0 = n := by
  induction h with
  | digit hc => rw [Nat.ofDigitChars_cons, Nat.ofDigitChars_nil, Nat.mul_zero, Nat.zero_add]
  | concat _ hc ih => rw [Nat.ofDigitChars_append, ih, Nat.ofDigitChars_cons, Nat.ofDigitChars_nil]

/-- Digits denote the number that is computed from them. -/
theorem isDecimal_ofDigitChars {s : List Char} (hne : s ≠ []) (hs : ∀ c ∈ s, c.isDigit = true) :
    IsDecimal s (Nat.ofDigitChars 10 s 0) := by
  induction s using List.reverseRecOn with
  | nil => exact absurd rfl hne
  | append_singleton s c ih =>
    obtain ⟨hdigits, hc⟩ := List.forall_mem_append.mp hs
    rw [List.forall_mem_singleton] at hc
    rcases eq_or_ne s [] with rfl | hnonempty
    · have hone := IsDecimal.digit hc
      rwa [← hone.ofDigitChars_eq] at hone
    · have hmore := (ih hnonempty hdigits).concat hc
      rwa [← hmore.ofDigitChars_eq] at hmore

/-- **What is read as a natural number.** -/
theorem natural?_eq_some_iff {s : List Char} {n : Nat} :
    natural? s = some n ↔ IsDecimal s n := by
  rw [natural?]
  constructor
  · intro h
    split at h
    next hdigits =>
      obtain rfl := Option.some.inj h
      rw [Bool.and_eq_true, List.all_eq_true, Bool.not_eq_true', List.isEmpty_eq_false_iff]
        at hdigits
      exact isDecimal_ofDigitChars hdigits.1 hdigits.2
    · cases h
  · intro h
    have hdigits : (!s.isEmpty && s.all Char.isDigit) = true := by
      rw [Bool.and_eq_true, List.all_eq_true, Bool.not_eq_true', List.isEmpty_eq_false_iff]
      exact ⟨h.ne_nil, h.isDigit_of_mem⟩
    rw [if_pos hdigits, h.ofDigitChars_eq]

theorem naturalBelow?_eq_some_iff {bound : Nat} {s : List Char} {n : Nat} :
    naturalBelow? bound s = some n ↔ IsDecimal s n ∧ n < bound := by
  rw [naturalBelow?, Option.filter_eq_some_iff, natural?_eq_some_iff, decide_eq_true_iff]

theorem isDecimal_numeral (n : Nat) : IsDecimal (numeral n) n :=
  natural?_eq_some_iff.mp (natural?_numeral n)

/-- **What is read as an integer.** -/
theorem integer?_eq_some_iff {s : List Char} {value : Int} :
    integer? s = some value ↔ IsSigned s value := by
  constructor
  · intro h
    unfold integer? at h
    split at h
    all_goals
      obtain ⟨n, hn, rfl⟩ := Option.map_eq_some_iff.mp h
      have hdecimal := natural?_eq_some_iff.mp hn
    · exact .plus hdecimal
    · exact .minus hdecimal
    · exact .bare hdecimal
  · rintro (h | h | h)
    · rw [integer?.eq_3]
      · rw [natural?_eq_some_iff.mpr h]
        rfl
      · rintro t rfl
        exact absurd (h.isDigit_of_mem '+' List.mem_cons_self) (by decide)
      · rintro t rfl
        exact absurd (h.isDigit_of_mem '-' List.mem_cons_self) (by decide)
    · rw [integer?, natural?_eq_some_iff.mpr h]
      rfl
    · rw [integer?, natural?_eq_some_iff.mpr h]
      rfl

end FunctionSearch.Number
