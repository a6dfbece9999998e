import FunctionSearch.Export.Script
import Mathlib.Data.List.Basic

/-!
# Unicode literals

What stands between the quotes of a directory's literal, against a reader of such literals.

* `readLiteral?` reads a text with the escapes of unicode literals, and refuses a quote that is not
  escaped, a line break and every other escape;
* `hasBareQuote` looks for a quote that no backslash stands in front of;
* `literalBody` is what `directoryLiteral` puts between its quotes. It holds no bare quote and no
  control character, and is read back as the directory (`readLiteral?_literalBody`).
-/

namespace FunctionSearch.Export

/-! ## Reading -/

/-- The character that a letter behind a backslash stands for. -/
def escaped? : Char → Option Char
  | '\\' => some '\\'
  | '"' => some '"'
  | 'b' => some '\x08'
  | 'f' => some '\x0c'
  | 'n' => some '\n'
  | 'r' => some '\r'
  | 't' => some '\t'
  | _ => none

/-- The character whose number four hexadecimal digits give. Half of a surrogate pair is none. -/
def numbered? (a b c d : Char) : Option Char :=
  match Number.hexValue? a, Number.hexValue? b, Number.hexValue? c, Number.hexValue? d with
  | some a, some b, some c, some d =>
    let n := ((a * 16 + b) * 16 + c) * 16 + d
    if n < 0xD800 || 0xDFFF < n then some (Char.ofNat n) else none
  | _, _, _, _ => none

/-- The text that the inside of a unicode literal denotes. -/
def readLiteral? : List Char → Option (List Char)
  | [] => some []
  | '\\' :: 'u' :: a :: b :: c :: d :: rest =>
    match numbered? a b c d with
    | some character => (readLiteral? rest).map (character :: ·)
    | none => none
  | '\\' :: letter :: rest =>
    match escaped? letter with
    | some character => (readLiteral? rest).map (character :: ·)
    | none => none
  | c :: rest =>
    if c == '\\' || c == '"' || c == '\n' || c == '\r' then none
    else (readLiteral? rest).map (c :: ·)

/-- Whether a quote stands in a text that would end a literal. -/
def hasBareQuote : List Char → Bool
  | [] => false
  | '\\' :: _ :: rest => hasBareQuote rest
  | c :: rest => c == '"' || hasBareQuote rest

/-! ## One character -/

theorem hexValue?_digitChar : ∀ n < 16, Number.hexValue? (Nat.digitChar n) = some n := by
  decide

/-- A digit is no character that means something in a literal. -/
theorem digitChar_inert :
    ∀ n < 16, Nat.digitChar n ≠ '\\' ∧ Nat.digitChar n ≠ '"' ∧ 0x20 ≤ (Nat.digitChar n).toNat := by
  decide

/-- A letter that stands for a character is one of a few, and not the one before a number. -/
theorem escaped?_eq_some {letter c : Char} (h : escaped? letter = some c) :
    letter ≠ 'u' ∧ 0x20 ≤ letter.toNat := by
  unfold escaped? at h
  split at h <;> first | decide | cases h

/-- The three ways in which a character is written: by a letter, by its number, or as it is. -/
inductive Written : Char → List Char → Prop
  | named {c letter : Char} (h : escaped? letter = some c) : Written c ['\\', letter]
  | numbered {c : Char} (h : c.toNat < 0x20) :
    Written c ['\\', 'u', '0', '0', Nat.digitChar (c.toNat / 16), Nat.digitChar (c.toNat % 16)]
  | plain {c : Char} (h : 0x20 ≤ c.toNat) (hslash : c ≠ '\\') (hquote : c ≠ '"') : Written c [c]

theorem written_escapeChar (c : Char) : Written c (Json.escapeChar c) := by
  unfold Json.escapeChar
  split_ifs with hquote hslash hb hf hn hr ht hcontrol
  · rw [eq_of_beq hquote]; exact .named rfl
  · rw [eq_of_beq hslash]; exact .named rfl
  · rw [eq_of_beq hb]; exact .named rfl
  · rw [eq_of_beq hf]; exact .named rfl
  · rw [eq_of_beq hn]; exact .named rfl
  · rw [eq_of_beq hr]; exact .named rfl
  · rw [eq_of_beq ht]; exact .named rfl
  · have hbyte : (UInt8.ofNat c.toNat).toNat = c.toNat := by
      rw [UInt8.toNat_ofNat', Nat.mod_eq_of_lt (by omega)]
    have hhigh : c.toNat / 16 % 16 = c.toNat / 16 := Nat.mod_eq_of_lt (by omega)
    rw [Number.hexByte, Number.hexDigit, Number.hexDigit, hbyte, hhigh]
    exact .numbered hcontrol
  · exact .plain (by omega) (by simpa using hslash) (by simpa using hquote)

theorem numbered?_digitChar {n : Nat} (h : n < 0x20) :
    numbered? '0' '0' (Nat.digitChar (n / 16)) (Nat.digitChar (n % 16)) = some (Char.ofNat n) := by
  have hzero : Number.hexValue? '0' = some 0 := by decide
  have hn : ((0 * 16 + 0) * 16 + n / 16) * 16 + n % 16 = n := by omega
  simp only [numbered?, hzero, hexValue?_digitChar (n / 16) (by omega),
    hexValue?_digitChar (n % 16) (by omega), hn]
  rw [if_pos (by simp; omega)]

theorem Written.readLiteral?_append {c : Char} {w : List Char} (h : Written c w)
    (rest : List Char) : readLiteral? (w ++ rest) = (readLiteral? rest).map (c :: ·) := by
  cases h with
  | named h =>
    have hu := (escaped?_eq_some h).1
    simp only [List.cons_append, List.nil_append]
    rw [readLiteral?, h]
    exact fun _ _ _ _ _ hletter => absurd hletter hu
  | numbered h =>
    simp only [List.cons_append, List.nil_append, readLiteral?, numbered?_digitChar h,
      Char.ofNat_toNat]
  | plain h hslash hquote =>
    have hline : c ≠ '\n' := fun hc => absurd (hc ▸ h) (by decide)
    have hreturn : c ≠ '\r' := fun hc => absurd (hc ▸ h) (by decide)
    rw [List.singleton_append, readLiteral?]
    · simp [hslash, hquote, hline, hreturn]
    · exact fun _ _ _ _ _ hc => absurd hc hslash
    · exact fun _ _ hc => absurd hc hslash

theorem Written.hasBareQuote_append {c : Char} {w : List Char} (h : Written c w)
    (rest : List Char) : hasBareQuote (w ++ rest) = hasBareQuote rest := by
  cases h with
  | named h => rfl
  | numbered h =>
    obtain ⟨hslash, hquote, -⟩ := digitChar_inert (c.toNat / 16) (by omega)
    obtain ⟨hslash', hquote', -⟩ := digitChar_inert (c.toNat % 16) (by omega)
    have hhigh := beq_false_of_ne hquote
    have hlow := beq_false_of_ne hquote'
    simp [hasBareQuote, hslash, hhigh, hslash', hlow]
  | plain h hslash hquote => simp [hasBareQuote, hslash, hquote]

theorem Written.le_toNat {c : Char} {w : List Char} (h : Written c w) :
    ∀ x ∈ w, 0x20 ≤ x.toNat := by
  cases h with
  | named h => simpa using (escaped?_eq_some h).2
  | numbered h =>
    have hhigh := (digitChar_inert (c.toNat / 16) (by omega)).2.2
    have hlow := (digitChar_inert (c.toNat % 16) (by omega)).2.2
    simp [hhigh, hlow]
  | plain h hslash hquote => simpa using h

/-! ## Whole directories -/

/-- What stands between the quotes of a directory's literal. -/
def literalBody (directory : String) : List Char :=
  directory.toList.flatMap Json.escapeChar

theorem directoryLiteral_eq (directory : String) :
    directoryLiteral directory = 'u' :: '"' :: (literalBody directory ++ ['"']) := rfl

/-- **A literal denotes its directory.** -/
theorem readLiteral?_literalBody (directory : String) :
    readLiteral? (literalBody directory) = some directory.toList := by
  rw [literalBody]
  induction directory.toList with
  | nil => rfl
  | cons c s ih =>
    rw [List.flatMap_cons, (written_escapeChar c).readLiteral?_append, ih, Option.map_some]

/-- **No quote inside a literal ends it.** -/
theorem hasBareQuote_literalBody (directory : String) :
    hasBareQuote (literalBody directory) = false := by
  rw [literalBody]
  induction directory.toList with
  | nil => rfl
  | cons c s ih => rw [List.flatMap_cons, (written_escapeChar c).hasBareQuote_append, ih]

theorem le_toNat_of_mem_literalBody {directory : String} {c : Char}
    (h : c ∈ literalBody directory) : 0x20 ≤ c.toNat := by
  obtain ⟨a, -, ha⟩ := List.mem_flatMap.mp h
  exact (written_escapeChar a).le_toNat c ha

end FunctionSearch.Export
