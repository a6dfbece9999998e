import FunctionSearch.Json.Parser
import FunctionSearch.Json.Printer
import FunctionSearch.Proofs.Artifact.Name
import FunctionSearch.Proofs.Export.Literal

/-!
# Spellings of JSON documents

A document can be written in many ways: with any white space between its tokens, and with any
character of a string literal as it is or as an escape. A number is kept as it is written.

* `SpellsChar`, `SpellsText`, `IsNumber` and `Spells` say which texts are spellings of a character,
  of a text, of a number and of a part of a document.
* `SpelledBy.parse?`: a text that spells a document is read as the document (`Spells.reads`).
* `Plain.spelledBy_render`, `Plain.spelledBy_pretty`: a document of texts and numbers is written as
  one of its spellings, on one line or over several.
-/

namespace FunctionSearch.Json

/-! ## Spellings -/

/-- White space. -/
def Space (s : List Char) : Prop :=
  ∀ c ∈ s, isSpace c = true

/-- A character inside a string literal: as it is, by a letter, by its code, or by the codes of two
surrogates. -/
inductive SpellsChar : Char → List Char → Prop
  | plain {c : Char} (hcontrol : 0x20 ≤ c.toNat) (hquote : c ≠ '"') (hslash : c ≠ '\\') :
    SpellsChar c [c]
  | named {c letter : Char} (hletter : escape? letter = some c) : SpellsChar c ['\\', letter]
  | code {c x₁ x₂ x₃ x₄ : Char} (hcode : hex4? x₁ x₂ x₃ x₄ = some c.toNat) :
    SpellsChar c ['\\', 'u', x₁, x₂, x₃, x₄]
  | pair {c x₁ x₂ x₃ x₄ y₁ y₂ y₃ y₄ : Char} {high low : Nat}
    (hhigh : hex4? x₁ x₂ x₃ x₄ = some high) (hlow : hex4? y₁ y₂ y₃ y₄ = some low)
    (hfirst : 0xD800 ≤ high ∧ high < 0xDC00) (hsecond : 0xDC00 ≤ low ∧ low < 0xE000)
    (hcode : c.toNat = 0x10000 + (high - 0xD800) * 0x400 + (low - 0xDC00)) :
    SpellsChar c ['\\', 'u', x₁, x₂, x₃, x₄, '\\', 'u', y₁, y₂, y₃, y₄]

/-- A text inside a string literal, character by character. -/
inductive SpellsText : List Char → List Char → Prop
  | nil : SpellsText [] []
  | cons {c : Char} {s written rest : List Char} (hchar : SpellsChar c written)
    (hrest : SpellsText s rest) : SpellsText (c :: s) (written ++ rest)

/-- One or more digits. -/
structure IsDigits (s : List Char) : Prop where
  nonempty : s ≠ []
  digits : ∀ c ∈ s, c.isDigit = true

/-- The whole part of a number: a lone zero, or digits of which the first is none. -/
inductive IsWhole : List Char → Prop
  | zero : IsWhole ['0']
  | digits {s : List Char} (hdigits : IsDigits s) (hzero : s.head? ≠ some '0') : IsWhole s

/-- The fraction of a number, which may be missing. -/
inductive IsFraction : List Char → Prop
  | missing : IsFraction []
  | given {s : List Char} (hdigits : IsDigits s) : IsFraction ('.' :: s)

/-- The exponent of a number, which may be missing. -/
inductive IsExponent : List Char → Prop
  | missing : IsExponent []
  | unsigned {e : Char} {s : List Char} (he : e = 'e' ∨ e = 'E') (hdigits : IsDigits s) :
    IsExponent (e :: s)
  | signed {e sign : Char} {s : List Char} (he : e = 'e' ∨ e = 'E')
    (hsign : sign = '+' ∨ sign = '-') (hdigits : IsDigits s) : IsExponent (e :: sign :: s)

/-- A number without its sign. -/
inductive IsMagnitude : List Char → Prop
  | of {whole fraction exponent : List Char} (hwhole : IsWhole whole)
    (hfraction : IsFraction fraction) (hexponent : IsExponent exponent) :
    IsMagnitude (whole ++ fraction ++ exponent)

/-- A number. -/
inductive IsNumber : List Char → Prop
  | positive {s : List Char} (h : IsMagnitude s) : IsNumber s
  | negative {s : List Char} (h : IsMagnitude s) : IsNumber ('-' :: s)

/-- A part of a document: a value, the items of an array, or the members of a record. -/
inductive Part where
  | value (value : Json)
  | items (items : List Json)
  | members (members : List (String × Json))

/-- What a part of a document may be written as. -/
inductive Spells : Part → List Char → Prop
  | null : Spells (.value .null) ['n', 'u', 'l', 'l']
  | yes : Spells (.value (.bool true)) ['t', 'r', 'u', 'e']
  | no : Spells (.value (.bool false)) ['f', 'a', 'l', 's', 'e']
  | number {digits : String} (h : IsNumber digits.toList) :
    Spells (.value (.number digits)) digits.toList
  | text {s : String} {written : List Char} (htext : SpellsText s.toList written) :
    Spells (.value (.text s)) ('"' :: (written ++ ['"']))
  | emptyArray {space : List Char} (hspace : Space space) :
    Spells (.value (.array [])) ('[' :: (space ++ [']']))
  | array {items : List Json} {written : List Char} (hitems : Spells (.items items) written) :
    Spells (.value (.array items)) ('[' :: (written ++ [']']))
  | emptyRecord {space : List Char} (hspace : Space space) :
    Spells (.value (.record [])) ('\x7b' :: (space ++ ['\x7d']))
  | record {members : List (String × Json)} {written : List Char}
    (hmembers : Spells (.members members) written) :
    Spells (.value (.record members)) ('\x7b' :: (written ++ ['\x7d']))
  | item {item : Json} {before written after : List Char} (hbefore : Space before)
    (hitem : Spells (.value item) written) (hafter : Space after) :
    Spells (.items [item]) (before ++ (written ++ after))
  | items {item : Json} {items : List Json} {before written after rest : List Char}
    (hbefore : Space before) (hitem : Spells (.value item) written) (hafter : Space after)
    (hrest : Spells (.items items) rest) :
    Spells (.items (item :: items)) (before ++ (written ++ (after ++ ',' :: rest)))
  | member {name : String} {item : Json} {before quoted behind between written after : List Char}
    (hbefore : Space before) (hname : SpellsText name.toList quoted) (hbehind : Space behind)
    (hbetween : Space between) (hitem : Spells (.value item) written) (hafter : Space after) :
    Spells (.members [(name, item)])
      (before ++ '"' :: (quoted ++ '"' :: (behind ++ ':' :: (between ++ (written ++ after)))))
  | members {name : String} {item : Json} {members : List (String × Json)}
    {before quoted behind between written after rest : List Char}
    (hbefore : Space before) (hname : SpellsText name.toList quoted) (hbehind : Space behind)
    (hbetween : Space between) (hitem : Spells (.value item) written) (hafter : Space after)
    (hrest : Spells (.members members) rest) :
    Spells (.members ((name, item) :: members))
      (before ++ '"' :: (quoted ++ '"' :: (behind ++ ':' ::
        (between ++ (written ++ (after ++ ',' :: rest))))))

/-! ## White space -/

theorem skipSpace_append {space : List Char} (h : Space space) (s : List Char) :
    skipSpace (space ++ s) = skipSpace s :=
  List.dropWhile_append_of_pos h

theorem skipSpace_cons {c : Char} (h : isSpace c = false) (s : List Char) :
    skipSpace (c :: s) = c :: s :=
  List.dropWhile_cons_of_neg (by simp [h])

theorem value_append_space {space : List Char} (h : Space space) (fuel : Nat) (s : List Char) :
    value fuel (space ++ s) = value fuel s := by
  cases fuel with
  | zero => rfl
  | succ fuel => rw [value, value, skipSpace_append h]

/-! ## Texts -/

theorem not_surrogate (c : Char) : isHigh c.toNat = false ∧ isLow c.toNat = false := by
  have hvalid : c.toNat < 0xD800 ∨ 0xDFFF < c.toNat ∧ c.toNat < 0x110000 := c.valid
  constructor
  · simp only [isHigh, Bool.and_eq_false_iff, decide_eq_false_iff_not]
    omega
  · simp only [isLow, Bool.and_eq_false_iff, decide_eq_false_iff_not]
    omega

/-- A character that is no surrogate is paired with nothing. -/
theorem pairUp_toNat (done : List Char) (c : Char) (more : List Nat) :
    pairUp done (c.toNat :: more) = pairUp (c :: done) more := by
  obtain ⟨hhigh, hlow⟩ := not_surrogate c
  cases more with
  | nil => simp [pairUp, hhigh, hlow]
  | cons n more => simp [pairUp, hhigh, hlow]

/-- What a spelling is read as: some units, which are paired up to the text. -/
def ReadsText (s written : List Char) : Prop :=
  ∃ read : List Nat,
    (∀ done rest, units done (written ++ rest) = units (read.reverse ++ done) rest) ∧
    ∀ done more, pairUp done (read ++ more) = pairUp (s.reverse ++ done) more

theorem units_code {x₁ x₂ x₃ x₄ : Char} {n : Nat} (h : hex4? x₁ x₂ x₃ x₄ = some n)
    (done : List Nat) (rest : List Char) :
    units done ('\\' :: 'u' :: x₁ :: x₂ :: x₃ :: x₄ :: rest) = units (n :: done) rest := by
  simp only [units, h]

theorem SpellsChar.reads {c : Char} {written : List Char} (h : SpellsChar c written) :
    ReadsText [c] written := by
  cases h with
  | plain hcontrol hquote hslash =>
    refine ⟨[c.toNat], fun done rest => ?_, fun done more => pairUp_toNat done c more⟩
    rw [List.singleton_append, units]
    · simp [hslash, Nat.not_lt.mpr hcontrol]
    · exact fun hc => absurd hc hquote
    · exact fun _ _ _ _ _ hc => absurd hc hslash
    · exact fun _ _ hc => absurd hc hslash
  | @named letter hletter =>
    refine ⟨[c.toNat], fun done rest => ?_, fun done more => pairUp_toNat done c more⟩
    have hu : letter ≠ 'u' := by
      rintro rfl
      cases hletter
    simp only [List.cons_append, List.nil_append]
    rw [units, hletter]
    · rfl
    · exact fun _ _ _ _ _ hc => absurd hc hu
  | code hcode =>
    refine ⟨[c.toNat], fun done rest => ?_, fun done more => pairUp_toNat done c more⟩
    exact units_code hcode done rest
  | @pair _ _ _ _ _ _ _ _ high low hhigh hlow hfirst hsecond hcode =>
    refine ⟨[high, low], fun done rest => ?_, fun done more => ?_⟩
    · simp only [List.cons_append, List.nil_append, units_code hhigh, units_code hlow,
        List.reverse_cons, List.reverse_nil]
    · have hisHigh : isHigh high = true := by simp [isHigh, hfirst]
      have hisLow : isLow low = true := by simp [isLow, hsecond]
      simp only [List.cons_append, List.nil_append, pairUp, hisHigh, hisLow, if_true, ← hcode,
        Char.ofNat_toNat, List.reverse_cons, List.reverse_nil]

theorem SpellsText.reads {s written : List Char} (h : SpellsText s written) :
    ReadsText s written := by
  induction h with
  | nil => exact ⟨[], fun _ _ => rfl, fun _ _ => rfl⟩
  | cons hchar _ ih =>
    obtain ⟨first, hfirst, hpair⟩ := hchar.reads
    obtain ⟨read, hread, hpairs⟩ := ih
    refine ⟨first ++ read, fun done rest => ?_, fun done more => ?_⟩
    · rw [List.append_assoc, hfirst, hread, List.reverse_append, List.append_assoc]
    · rw [List.append_assoc, hpair, hpairs]
      simp

/-- **A spelling of a text between quotes is read as the text.** -/
theorem SpellsText.literal {s : String} {written : List Char} (h : SpellsText s.toList written)
    (rest : List Char) : literal (written ++ '"' :: rest) = some (some s, rest) := by
  obtain ⟨read, hread, hpairs⟩ := h.reads
  have hunits : units [] (written ++ '"' :: rest) = some (read, rest) := by
    rw [hread, units]
    simp
  have htext : ofUnits? read = some s := by
    have hpair := hpairs [] []
    rw [List.append_nil, List.append_nil] at hpair
    simp [ofUnits?, hpair, pairUp]
  simp only [Json.literal, hunits, Option.map_some, htext]

/-! ## Numbers -/

/-- What may stand behind a number. -/
def Stops (rest : List Char) : Prop :=
  ∀ c ∈ rest.head?, c.isDigit = false ∧ c ≠ '.' ∧ c ≠ 'e' ∧ c ≠ 'E'

theorem stops_nil : Stops [] :=
  fun _ hc => absurd hc (Option.not_mem_none _)

theorem stops_cons {c : Char} (h : c.isDigit = false ∧ c ≠ '.' ∧ c ≠ 'e' ∧ c ≠ 'E')
    (rest : List Char) : Stops (c :: rest) :=
  fun _ hc => Option.some_inj.mp hc ▸ h

theorem Space.stops_append {space rest : List Char} (hspace : Space space) (hrest : Stops rest) :
    Stops (space ++ rest) := by
  cases space with
  | nil => exact hrest
  | cons c space =>
    have hc : ((c = ' ' ∨ c = '\t') ∨ c = '\n') ∨ c = '\r' := by
      simpa [isSpace] using hspace c List.mem_cons_self
    rcases hc with ((rfl | rfl) | rfl) | rfl <;> exact stops_cons (by decide) _

theorem ne_of_isDigit {digit c : Char} (hdigit : digit.isDigit = true) (hc : c.isDigit = false) :
    digit ≠ c := by
  rintro rfl
  rw [hdigit] at hc
  cases hc

theorem isSpace_of_isDigit {digit : Char} (hdigit : digit.isDigit = true) :
    isSpace digit = false := by
  have hne : ∀ c : Char, c.isDigit = false → digit ≠ c := fun _ hc => ne_of_isDigit hdigit hc
  simp [isSpace, hne ' ' (by decide), hne '\t' (by decide), hne '\n' (by decide),
    hne '\r' (by decide)]

/-- Digits end where no digit follows. -/
theorem IsDigits.digits1_append {s rest : List Char} (h : IsDigits s)
    (hrest : ∀ c ∈ rest.head?, c.isDigit = false) : digits1 (s ++ rest) = some (s, rest) := by
  have hstop : rest.takeWhile Char.isDigit = [] ∧ rest.dropWhile Char.isDigit = rest := by
    cases rest with
    | nil => exact ⟨rfl, rfl⟩
    | cons c rest =>
      have hc := hrest c rfl
      exact ⟨List.takeWhile_cons_of_neg (by simp [hc]), List.dropWhile_cons_of_neg (by simp [hc])⟩
  have htake : (s ++ rest).takeWhile Char.isDigit = s := by
    rw [List.takeWhile_append_of_pos h.digits, hstop.1, List.append_nil]
  have hdrop : (s ++ rest).dropWhile Char.isDigit = rest := by
    rw [List.dropWhile_append_of_pos h.digits, hstop.2]
  rw [digits1, htake, hdrop]
  cases s with
  | nil => exact absurd rfl h.nonempty
  | cons => rfl

theorem IsWhole.wholePart_append {s rest : List Char} (h : IsWhole s)
    (hrest : ∀ c ∈ rest.head?, c.isDigit = false) : wholePart (s ++ rest) = some (s, rest) := by
  cases h with
  | zero => rfl
  | digits hdigits hzero =>
    have hrun := hdigits.digits1_append hrest
    obtain ⟨digit, s, rfl⟩ := List.exists_cons_of_ne_nil hdigits.nonempty
    rw [List.cons_append] at hrun ⊢
    rw [wholePart]
    · exact hrun
    · exact fun _ h => hzero (congrArg some (List.cons.inj h).1)

theorem IsFraction.fractionPart_append {s rest : List Char} (h : IsFraction s)
    (hrest : ∀ c ∈ rest.head?, c.isDigit = false ∧ c ≠ '.') :
    fractionPart (s ++ rest) = some (s, rest) := by
  cases h with
  | missing =>
    rw [List.nil_append]
    cases rest with
    | nil => rfl
    | cons c rest =>
      rw [fractionPart]
      exact fun _ h => absurd (List.cons.inj h).1 (hrest c rfl).2
  | given hdigits =>
    rw [List.cons_append, fractionPart, hdigits.digits1_append fun c hc => (hrest c hc).1]
    rfl

theorem IsExponent.exponentPart_append {s rest : List Char} (h : IsExponent s)
    (hrest : Stops rest) : exponentPart (s ++ rest) = some (s, rest) := by
  have hmark : ∀ e : Char, e = 'e' ∨ e = 'E' → (e == 'e' || e == 'E') = true := by
    rintro e (rfl | rfl) <;> rfl
  cases h with
  | missing =>
    rw [List.nil_append]
    cases rest with
    | nil => rfl
    | cons c rest =>
      obtain ⟨-, -, he, hE⟩ := hrest c rfl
      simp [exponentPart, he, hE]
  | unsigned he hdigits =>
    have hrun := hdigits.digits1_append fun c hc => (hrest c hc).1
    obtain ⟨digit, s, rfl⟩ := List.exists_cons_of_ne_nil hdigits.nonempty
    have hdigit := hdigits.digits digit List.mem_cons_self
    have hsign : (digit == '+' || digit == '-') = false := by
      simp [ne_of_isDigit hdigit (by decide : '+'.isDigit = false),
        ne_of_isDigit hdigit (by decide : '-'.isDigit = false)]
    rw [List.cons_append] at hrun
    simp only [List.cons_append, exponentPart, hmark _ he, hsign, hrun, if_true, Bool.false_eq_true,
      if_false, Option.map_some]
  | signed he hsign hdigits =>
    have hrun := hdigits.digits1_append fun c hc => (hrest c hc).1
    have hsigned : ∀ sign : Char, sign = '+' ∨ sign = '-' →
        (sign == '+' || sign == '-') = true := by
      rintro sign (rfl | rfl) <;> rfl
    simp only [List.cons_append, exponentPart, hmark _ he, hsigned _ hsign, hrun, if_true,
      Option.map_some]

/-- An exponent does not start like a fraction. -/
theorem IsExponent.head?_append {s rest : List Char} (h : IsExponent s) (hrest : Stops rest) :
    ∀ c ∈ (s ++ rest).head?, c.isDigit = false ∧ c ≠ '.' := by
  cases h with
  | missing => exact fun c hc => ⟨(hrest c hc).1, (hrest c hc).2.1⟩
  | unsigned he | signed he =>
    rintro c hc
    obtain rfl := Option.some.inj hc
    obtain rfl | rfl := he <;> decide

/-- **A number without its sign is read as it is written.** -/
theorem IsMagnitude.magnitude_append {s rest : List Char} (h : IsMagnitude s) (hrest : Stops rest) :
    magnitude (s ++ rest) = some (s, rest) := by
  obtain @⟨whole, fraction, exponent, hwhole, hfraction, hexponent⟩ := h
  have hbehind := hexponent.head?_append hrest
  have hfirst : ∀ c ∈ (fraction ++ (exponent ++ rest)).head?, c.isDigit = false := by
    cases hfraction with
    | missing => exact fun c hc => (hbehind c hc).1
    | given =>
      rintro c hc
      obtain rfl := Option.some.inj hc
      decide
  rw [List.append_assoc, List.append_assoc, magnitude, hwhole.wholePart_append hfirst]
  simp only [bind, Option.bind_some, hfraction.fractionPart_append hbehind,
    hexponent.exponentPart_append hrest, pure, List.append_assoc]

theorem IsMagnitude.exists_eq_cons {s : List Char} (h : IsMagnitude s) :
    ∃ digit rest, s = digit :: rest ∧ digit.isDigit = true := by
  obtain ⟨hwhole, -, -⟩ := h
  cases hwhole with
  | zero => exact ⟨'0', _, rfl, by decide⟩
  | digits hdigits =>
    obtain ⟨digit, s, rfl⟩ := List.exists_cons_of_ne_nil hdigits.nonempty
    exact ⟨digit, _, rfl, hdigits.digits digit List.mem_cons_self⟩

/-- A number starts with a digit or with a dash. -/
theorem IsNumber.exists_eq_cons {s : List Char} (h : IsNumber s) :
    ∃ c rest, s = c :: rest ∧ (c = '-' ∨ c.isDigit = true) := by
  cases h with
  | positive h =>
    obtain ⟨digit, rest, rfl, hdigit⟩ := h.exists_eq_cons
    exact ⟨digit, rest, rfl, .inr hdigit⟩
  | negative => exact ⟨'-', _, rfl, .inl rfl⟩

theorem IsNumber.numberValue_append {s rest : List Char} (h : IsNumber s) (hrest : Stops rest) :
    numberValue (s ++ rest) = some (.number (String.ofList s), rest) := by
  cases h with
  | positive h =>
    have hmagnitude := h.magnitude_append hrest
    obtain ⟨digit, s, rfl, hdigit⟩ := h.exists_eq_cons
    rw [List.cons_append] at hmagnitude ⊢
    rw [numberValue, hmagnitude]
    · rfl
    · exact fun _ h => absurd (List.cons.inj h).1 (ne_of_isDigit hdigit (by decide))
  | negative h =>
    rw [List.cons_append, numberValue, h.magnitude_append hrest]
    rfl

/-- What a number starts with starts no other value, and no white space. -/
theorem not_of_number_start {c : Char} (h : c = '-' ∨ c.isDigit = true) :
    isSpace c = false ∧ (c == '-' || c.isDigit) = true ∧
      ∀ d : Char, d ∈ ['"', '[', ']', '\x7b'] → c ≠ d := by
  obtain rfl | hdigit := h
  · decide
  · have hne : ∀ d : Char, d.isDigit = false → c ≠ d := fun _ hd => ne_of_isDigit hdigit hd
    refine ⟨isSpace_of_isDigit hdigit, by simp [hdigit], fun d hd => hne d ?_⟩
    simp only [List.mem_cons, List.not_mem_nil, or_false] at hd
    obtain rfl | rfl | rfl | rfl := hd <;> decide

/-- **A number is read as it is written.** -/
theorem IsNumber.value_append {s rest : List Char} (h : IsNumber s) (fuel : Nat)
    (hrest : Stops rest) :
    value (fuel + 1) (s ++ rest) = some (.number (String.ofList s), rest) := by
  have hnumber := h.numberValue_append hrest
  obtain ⟨c, s, rfl, hc⟩ := h.exists_eq_cons
  obtain ⟨hspace, hstart, hne⟩ := not_of_number_start hc
  rw [List.cons_append] at hnumber ⊢
  rw [value, skipSpace_cons hspace]
  split
  · next h => cases h
  · next h => exact absurd (List.cons.inj h).1 (hne '"' (by decide))
  · next h => exact absurd (List.cons.inj h).1 (hne '[' (by decide))
  · next h => exact absurd (List.cons.inj h).1 (hne '\x7b' (by decide))
  · next h =>
    obtain ⟨rfl, rfl⟩ := List.cons.inj h
    rw [if_pos hstart, hnumber]

theorem isDigits_numeral (n : Nat) : IsDigits (Number.numeral n) :=
  ⟨Nat.toDigits_ne_nil, fun _ => Artifact.isDigit_of_mem_numeral⟩

/-- The numeral of a number other than zero does not start with zero. -/
theorem head?_numeral_ne_zero {n : Nat} (hn : 0 < n) : (Number.numeral n).head? ≠ some '0' := by
  induction n using Nat.strongRecOn with
  | ind n ih =>
    have hdigits : ∀ n < 10, 0 < n → Nat.digitChar n ≠ '0' := by decide
    rcases Nat.lt_or_ge n 10 with hlt | hge
    · rw [Number.numeral, Nat.toDigits_of_lt_base hlt]
      exact fun h => hdigits n hlt hn (Option.some.inj h)
    · have hfirst := ih (n / 10) (by omega) (by omega)
      rw [Number.numeral] at hfirst ⊢
      rwa [Nat.toDigits_of_base_le (by decide) hge,
        List.head?_append_of_ne_nil _ Nat.toDigits_ne_nil]

/-- A numeral is a number. -/
theorem isNumber_numeral (n : Nat) : IsNumber (Number.numeral n) := by
  have hwhole : IsWhole (Number.numeral n) := by
    rcases Nat.eq_zero_or_pos n with rfl | hn
    · exact .zero
    · exact .digits (isDigits_numeral n) (head?_numeral_ne_zero hn)
  have hmagnitude := IsMagnitude.of hwhole .missing .missing
  rw [List.append_nil, List.append_nil] at hmagnitude
  exact .positive hmagnitude

/-! ## Parts -/

/-- A spelled value starts with a character that is no white space and closes no array. -/
theorem Spells.exists_eq_cons {json : Json} {written : List Char}
    (h : Spells (.value json) written) :
    ∃ c rest, written = c :: rest ∧ isSpace c = false ∧ c ≠ ']' := by
  cases h with
  | null => exact ⟨'n', _, rfl, by decide⟩
  | yes => exact ⟨'t', _, rfl, by decide⟩
  | no => exact ⟨'f', _, rfl, by decide⟩
  | number h =>
    obtain ⟨c, rest, hdigits, hc⟩ := h.exists_eq_cons
    obtain ⟨hspace, -, hne⟩ := not_of_number_start hc
    exact ⟨c, rest, hdigits, hspace, hne ']' (by decide)⟩
  | text => exact ⟨'"', _, rfl, by decide⟩
  | emptyArray => exact ⟨'[', _, rfl, by decide⟩
  | array => exact ⟨'[', _, rfl, by decide⟩
  | emptyRecord => exact ⟨'\x7b', _, rfl, by decide⟩
  | record => exact ⟨'\x7b', _, rfl, by decide⟩

/-- Spelled items start, behind white space, with a character that does not close the array. -/
theorem Spells.skipSpace_items {items : List Json} {written : List Char}
    (h : Spells (.items items) written) (after : List Char) :
    ∃ c rest, skipSpace (written ++ after) = c :: rest ∧ c ≠ ']' := by
  cases h with
  | item hbefore hitem hafter =>
    obtain ⟨c, rest, rfl, hc, hne⟩ := hitem.exists_eq_cons
    rw [List.append_assoc, skipSpace_append hbefore, List.append_assoc, List.cons_append,
      skipSpace_cons hc]
    exact ⟨c, _, rfl, hne⟩
  | items hbefore hitem hafter hrest =>
    obtain ⟨c, rest, rfl, hc, hne⟩ := hitem.exists_eq_cons
    rw [List.append_assoc, skipSpace_append hbefore, List.append_assoc, List.cons_append,
      skipSpace_cons hc]
    exact ⟨c, _, rfl, hne⟩

/-- Spelled members start, behind white space, with a quote. -/
theorem Spells.skipSpace_members {members : List (String × Json)} {written : List Char}
    (h : Spells (.members members) written) (after : List Char) :
    ∃ rest, skipSpace (written ++ after) = '"' :: rest := by
  cases h with
  | member hbefore =>
    rw [List.append_assoc, skipSpace_append hbefore, List.cons_append, skipSpace_cons (by decide)]
    exact ⟨_, rfl⟩
  | members hbefore =>
    rw [List.append_assoc, skipSpace_append hbefore, List.cons_append, skipSpace_cons (by decide)]
    exact ⟨_, rfl⟩

/-- What the parsers make of a part, given two units of fuel for each of its characters. -/
def Reads : Part → List Char → Prop
  | .value json, written => ∀ fuel rest, 2 * written.length ≤ fuel → Stops rest →
    value fuel (written ++ rest) = some (json, rest)
  | .items more, written => ∀ fuel done rest, 2 * written.length < fuel →
    items fuel done (written ++ ']' :: rest) = some (.array (done.reverse ++ more), rest)
  | .members more, written => ∀ fuel done rest, 2 * written.length < fuel →
    members fuel done (written ++ '\x7d' :: rest) =
      some (.object (done.reverse ++ more.map fun member => (some member.1, member.2)), rest)

/-- A value of at least one character is read by the step that the first unit of fuel pays for. -/
theorem reads_value {json : Json} {written : List Char} (hne : written ≠ [])
    (h : ∀ fuel rest, 2 * written.length ≤ fuel + 1 → Stops rest →
      value (fuel + 1) (written ++ rest) = some (json, rest)) : Reads (.value json) written := by
  rintro (_ | fuel) rest hfuel hrest
  · exact absurd (List.eq_nil_of_length_eq_zero (by omega)) hne
  · exact h fuel rest hfuel hrest

theorem value_quote (fuel : Nat) {s rest : List Char} {text : Literal}
    (h : literal s = some (text, rest)) :
    value (fuel + 1) ('"' :: s) = some (.string text, rest) := by
  rw [value, skipSpace_cons (by decide)]
  simp only [h]
  rfl

theorem value_emptyArray (fuel : Nat) {s rest : List Char} (h : skipSpace s = ']' :: rest) :
    value (fuel + 1) ('[' :: s) = some (.array [], rest) := by
  rw [value, skipSpace_cons (by decide)]
  simp only [h]

theorem value_array (fuel : Nat) {s rest : List Char} {c : Char} (h : skipSpace s = c :: rest)
    (hne : c ≠ ']') : value (fuel + 1) ('[' :: s) = items fuel [] s := by
  rw [value, skipSpace_cons (by decide)]
  simp only [h]
  split
  · next heq => exact absurd (List.cons.inj heq).1 hne
  · rfl

theorem value_emptyRecord (fuel : Nat) {s rest : List Char} (h : skipSpace s = '\x7d' :: rest) :
    value (fuel + 1) ('\x7b' :: s) = some (.record [], rest) := by
  rw [value, skipSpace_cons (by decide)]
  simp only [h, record, List.map_nil]

theorem value_record (fuel : Nat) {s rest : List Char} (h : skipSpace s = '"' :: rest) :
    value (fuel + 1) ('\x7b' :: s) = members fuel [] s := by
  rw [value, skipSpace_cons (by decide)]
  simp only [h]
  split
  · next heq => exact absurd (List.cons.inj heq).1 (by decide)
  · rfl

/-- A member is read as its name and its value, whatever space is around them. A comma behind it
leads to the next one, and a brace ends the object. -/
theorem members_step (fuel : Nat) (done : List (Literal × Json)) {name : String} {item : Json}
    {before quoted behind between s rest : List Char} (hbefore : Space before)
    (hname : SpellsText name.toList quoted) (hbehind : Space behind) (hbetween : Space between)
    (hitem : value fuel s = some (item, rest)) (tail : List Char) :
    (skipSpace rest = ',' :: tail →
      members (fuel + 1) done
          (before ++ '"' :: (quoted ++ '"' :: (behind ++ ':' :: (between ++ s)))) =
        members fuel ((some name, item) :: done) tail) ∧
    (skipSpace rest = '\x7d' :: tail →
      members (fuel + 1) done
          (before ++ '"' :: (quoted ++ '"' :: (behind ++ ':' :: (between ++ s)))) =
        some (.object ((some name, item) :: done).reverse, tail)) := by
  constructor
  all_goals
    intro hrest
    rw [members, skipSpace_append hbefore, skipSpace_cons (by decide)]
    simp only [hname.literal, skipSpace_append hbehind,
      skipSpace_cons (by decide : isSpace ':' = false), value_append_space hbetween, hitem, hrest]

/-- **Every spelling of a part is read as the part.** -/
theorem Spells.reads {part : Part} {written : List Char} (h : Spells part written) :
    Reads part written := by
  induction h with
  | null => exact reads_value (by simp) fun _ _ _ _ => rfl
  | yes => exact reads_value (by simp) fun _ _ _ _ => rfl
  | no => exact reads_value (by simp) fun _ _ _ _ => rfl
  | number h =>
    obtain ⟨c, rest, hdigits, -⟩ := h.exists_eq_cons
    refine reads_value (by simp [hdigits]) fun fuel _ _ hrest => ?_
    rw [h.value_append fuel hrest, String.ofList_toList]
  | text htext =>
    refine reads_value (by simp) fun fuel rest _ _ => ?_
    rw [List.cons_append, List.append_assoc, List.singleton_append]
    exact value_quote fuel (htext.literal rest)
  | emptyArray hspace =>
    refine reads_value (by simp) fun fuel rest _ _ => ?_
    rw [List.cons_append, List.append_assoc, List.singleton_append]
    refine value_emptyArray fuel ?_
    rw [skipSpace_append hspace, skipSpace_cons (by decide)]
  | array hitems ih =>
    refine reads_value (by simp) fun fuel rest hfuel _ => ?_
    obtain ⟨c, more, hskip, hne⟩ := hitems.skipSpace_items (']' :: rest)
    have hread := ih fuel [] rest (by simp at hfuel; omega)
    rw [List.cons_append, List.append_assoc, List.singleton_append, value_array fuel hskip hne]
    exact hread
  | emptyRecord hspace =>
    refine reads_value (by simp) fun fuel rest _ _ => ?_
    rw [List.cons_append, List.append_assoc, List.singleton_append]
    refine value_emptyRecord fuel ?_
    rw [skipSpace_append hspace, skipSpace_cons (by decide)]
  | record hmembers ih =>
    refine reads_value (by simp) fun fuel rest hfuel _ => ?_
    obtain ⟨more, hskip⟩ := hmembers.skipSpace_members ('\x7d' :: rest)
    have hread := ih fuel [] rest (by simp at hfuel; omega)
    rw [List.cons_append, List.append_assoc, List.singleton_append, value_record fuel hskip]
    exact hread
  | @item item before written after hbefore _ hafter ih =>
    rintro (_ | fuel) done rest hfuel
    · simp at hfuel
    · have hread := ih fuel (after ++ ']' :: rest) (by simp at hfuel; omega)
        (hafter.stops_append (stops_cons (by decide) _))
      rw [List.append_assoc, List.append_assoc, Json.items, value_append_space hbefore]
      simp only [hread, skipSpace_append hafter, skipSpace_cons (by decide : isSpace ']' = false),
        List.reverse_cons]
  | @items item more before written after rest hbefore _ hafter _ ih ihrest =>
    rintro (_ | fuel) done tail hfuel
    · simp at hfuel
    · have hread := ih fuel (after ++ ',' :: (rest ++ ']' :: tail)) (by simp at hfuel; omega)
        (hafter.stops_append (stops_cons (by decide) _))
      have hreadRest := ihrest fuel (item :: done) tail (by simp at hfuel; omega)
      rw [List.append_assoc, List.append_assoc, List.append_assoc, List.cons_append, Json.items,
        value_append_space hbefore]
      simp only [hread, skipSpace_append hafter, skipSpace_cons (by decide : isSpace ',' = false)]
      rw [hreadRest, List.reverse_cons, List.append_assoc, List.singleton_append]
  | @member name item before quoted behind between written after hbefore hname hbehind hbetween _
      hafter ih =>
    rintro (_ | fuel) done rest hfuel
    · simp at hfuel
    · have hread := ih fuel (after ++ '\x7d' :: rest) (by simp at hfuel; omega)
        (hafter.stops_append (stops_cons (by decide) _))
      have hend : skipSpace (after ++ '\x7d' :: rest) = '\x7d' :: rest := by
        rw [skipSpace_append hafter, skipSpace_cons (by decide)]
      simp only [List.append_assoc, List.cons_append]
      rw [(members_step fuel done hbefore hname hbehind hbetween hread rest).2 hend]
      simp only [List.reverse_cons, List.map_cons, List.map_nil]
  | @members name item more before quoted behind between written after rest hbefore hname hbehind
      hbetween _ hafter _ ih ihrest =>
    rintro (_ | fuel) done tail hfuel
    · simp at hfuel
    · have hread := ih fuel (after ++ ',' :: (rest ++ '\x7d' :: tail)) (by simp at hfuel; omega)
        (hafter.stops_append (stops_cons (by decide) _))
      have hreadRest := ihrest fuel ((some name, item) :: done) tail (by simp at hfuel; omega)
      have hcomma : skipSpace (after ++ ',' :: (rest ++ '\x7d' :: tail)) =
          ',' :: (rest ++ '\x7d' :: tail) := by
        rw [skipSpace_append hafter, skipSpace_cons (by decide)]
      simp only [List.append_assoc, List.cons_append]
      rw [(members_step fuel done hbefore hname hbehind hbetween hread _).1 hcomma, hreadRest,
        List.reverse_cons, List.append_assoc, List.singleton_append, List.map_cons]

/-- Whether a text spells a document with nothing but white space around it. -/
def SpelledBy (json : Json) (text : String) : Prop :=
  ∃ before written after, Space before ∧ Spells (.value json) written ∧ Space after ∧
    text = String.ofList (before ++ (written ++ after))

/-- **A text that spells a document is read as the document.** -/
theorem SpelledBy.parse? {json : Json} {text : String} (h : json.SpelledBy text) :
    parse? text = some json := by
  obtain ⟨before, written, after, hbefore, hwritten, hafter, rfl⟩ := h
  have hstops : Stops after := by
    rw [← List.append_nil after]
    exact hafter.stops_append stops_nil
  have hread := hwritten.reads (2 * (before ++ (written ++ after)).length + 2) after
    (by simp; omega) hstops
  have hend : skipSpace after = [] := by
    simpa [skipSpace] using skipSpace_append hafter []
  rw [Json.parse?, String.toList_ofList]
  simp only [value_append_space hbefore, hread, hend, List.isEmpty_nil, if_true]

/-! ## Printers -/

theorem escape?_of_escaped? {letter c : Char} (h : Export.escaped? letter = some c) :
    escape? letter = some c := by
  unfold Export.escaped? at h
  split at h <;> first | exact h | cases h

theorem hex4?_digitChar {n : Nat} (h : n < 0x20) :
    hex4? '0' '0' (Nat.digitChar (n / 16)) (Nat.digitChar (n % 16)) = some n := by
  have hzero : Number.hexValue? '0' = some 0 := by decide
  have hn : n / 16 * 16 + n % 16 = n := by omega
  simp [hex4?, hzero, Export.hexValue?_digitChar (n / 16) (by omega),
    Export.hexValue?_digitChar (n % 16) (by omega), hn]

theorem spellsChar_escapeChar (c : Char) : SpellsChar c (escapeChar c) := by
  have hwritten := Export.written_escapeChar c
  generalize escapeChar c = written at hwritten
  cases hwritten with
  | named hletter => exact .named (escape?_of_escaped? hletter)
  | numbered hcontrol => exact .code (hex4?_digitChar hcontrol)
  | plain hcontrol hslash hquote => exact .plain hcontrol hquote hslash

theorem spellsText_flatMap (s : List Char) : SpellsText s (s.flatMap escapeChar) := by
  induction s with
  | nil => exact .nil
  | cons c s ih => exact .cons (spellsChar_escapeChar c) ih

theorem space_nil : Space [] :=
  fun _ hc => absurd hc List.not_mem_nil

theorem space_singleton : Space [' '] := by
  simp [Space, isSpace]

theorem space_newline (level : Nat) : Space (newline level) := by
  intro c hc
  rcases List.mem_cons.mp hc with rfl | hc
  · rfl
  · rw [List.eq_of_mem_replicate hc]
    rfl

/-- Items between commas, each behind the same space. -/
theorem spells_intercalate_items (write : Json → List Char) {before after : List Char}
    (hbefore : Space before) (hafter : Space after) {items : List Json} (hne : items ≠ [])
    (h : ∀ item ∈ items, Spells (.value item) (write item)) :
    Spells (.items items)
      ([','].intercalate (items.map fun item => before ++ write item) ++ after) := by
  induction items with
  | nil => exact absurd rfl hne
  | cons item items ih =>
    have hitem := h item List.mem_cons_self
    cases items with
    | nil =>
      have hspells := Spells.item hbefore hitem hafter
      simpa using hspells
    | cons next items =>
      have hrest := ih (List.cons_ne_nil _ _) fun item hitem =>
        h item (List.mem_cons_of_mem _ hitem)
      have hspells := Spells.items hbefore hitem space_nil hrest
      simp only [List.map_cons, List.intercalate_cons_cons, List.append_assoc, List.nil_append,
        List.singleton_append] at hspells ⊢
      exact hspells

/-- Members between commas, with the same space in front of each and behind each colon. -/
theorem spells_intercalate_members (write : Json → List Char) {before between after : List Char}
    (hbefore : Space before) (hbetween : Space between) (hafter : Space after)
    {members : List (String × Json)} (hne : members ≠ [])
    (h : ∀ member ∈ members, Spells (.value member.2) (write member.2)) :
    Spells (.members members) ([','].intercalate (members.map fun member =>
      before ++ (quote member.1.toList ++ ':' :: (between ++ write member.2))) ++ after) := by
  induction members with
  | nil => exact absurd rfl hne
  | cons member members ih =>
    have hitem := h member List.mem_cons_self
    have hname := spellsText_flatMap member.1.toList
    cases members with
    | nil =>
      have hspells := Spells.member hbefore hname space_nil hbetween hitem hafter
      simpa [quote] using hspells
    | cons next members =>
      have hrest := ih (List.cons_ne_nil _ _) fun member hmember =>
        h member (List.mem_cons_of_mem _ hmember)
      have hspells := Spells.members hbefore hname space_nil hbetween hitem space_nil hrest
      simp only [List.map_cons, List.intercalate_cons_cons, quote, List.append_assoc,
        List.nil_append, List.cons_append] at hspells ⊢
      exact hspells

theorem compactItems_eq (items : List Json) :
    compactItems items = [','].intercalate (items.map compact) := by
  induction items with
  | nil => rfl
  | cons item items ih =>
    cases items with
    | nil => simp [compactItems]
    | cons next items => simp [compactItems, ih]

theorem writeLiteral_some (s : String) : writeLiteral (some s) = quote s.toList := rfl

theorem compactMembers_eq (members : List (String × Json)) :
    compactMembers (members.map fun member => (some member.1, member.2)) =
      [','].intercalate (members.map fun member =>
        quote member.1.toList ++ ':' :: compact member.2) := by
  induction members with
  | nil => rfl
  | cons member members ih =>
    cases members with
    | nil => simp only [List.map_cons, List.map_nil, compactMembers, List.intercalate_singleton,
        writeLiteral_some]
    | cons next members =>
      simp only [List.map_cons] at ih ⊢
      simp [compactMembers, ih, writeLiteral_some]

theorem layoutItems_eq (level : Nat) (items : List Json) :
    layoutItems level items =
      [','].intercalate (items.map fun item => newline level ++ layout level item) := by
  induction items with
  | nil => rfl
  | cons item items ih =>
    cases items with
    | nil => simp [layoutItems]
    | cons next items => simp [layoutItems, ih]

theorem layoutMembers_eq (level : Nat) (members : List (String × Json)) :
    layoutMembers level (members.map fun member => (some member.1, member.2)) =
      [','].intercalate (members.map fun member =>
        newline level ++ (quote member.1.toList ++ ':' :: ([' '] ++ layout level member.2))) := by
  induction members with
  | nil => rfl
  | cons member members ih =>
    cases members with
    | nil => simp [layoutMembers, writeLiteral_some]
    | cons next members =>
      simp only [List.map_cons] at ih ⊢
      simp [layoutMembers, ih, writeLiteral_some]

/-- The documents of which every number is one and every literal denotes a text. -/
inductive Plain : Json → Prop
  | null : Plain .null
  | bool (b : Bool) : Plain (.bool b)
  | number {digits : String} (h : IsNumber digits.toList) : Plain (.number digits)
  | text (s : String) : Plain (.text s)
  | array {items : List Json} (hitems : ∀ item ∈ items, Plain item) : Plain (.array items)
  | record {members : List (String × Json)} (hmembers : ∀ member ∈ members, Plain member.2) :
    Plain (.record members)

theorem Plain.natural (n : Nat) : Plain (.natural n) := by
  refine .number ?_
  rw [String.toList_ofList]
  exact isNumber_numeral n

theorem compact_array (items : List Json) :
    compact (.array items) = '[' :: (compactItems items ++ [']']) := rfl

theorem compact_record (members : List (String × Json)) :
    compact (.record members) =
      '\x7b' :: (compactMembers (members.map fun member => (some member.1, member.2)) ++
        ['\x7d']) := rfl

/-- **A document is written without white space as one of its spellings.** -/
theorem Plain.spells_compact {json : Json} (h : Plain json) :
    Spells (.value json) (compact json) := by
  induction h with
  | null => exact .null
  | bool b => cases b with
    | true => exact .yes
    | false => exact .no
  | number h => exact .number h
  | text s => exact .text (spellsText_flatMap s.toList)
  | @array items _ ih =>
    rw [compact_array, compactItems_eq]
    rcases eq_or_ne items [] with rfl | hne
    · exact .emptyArray space_nil
    · have hspells := spells_intercalate_items compact space_nil space_nil hne ih
      rw [List.append_nil] at hspells
      exact .array hspells
  | @record members _ ih =>
    rw [compact_record, compactMembers_eq]
    rcases eq_or_ne members [] with rfl | hne
    · exact .emptyRecord space_nil
    · have hspells := spells_intercalate_members compact space_nil space_nil space_nil hne ih
      rw [List.append_nil] at hspells
      exact .record hspells

theorem layout_array (level : Nat) {items : List Json} (hne : items ≠ []) :
    layout level (.array items) =
      '[' :: (layoutItems (level + 1) items ++ newline level ++ [']']) := by
  cases items with
  | nil => exact absurd rfl hne
  | cons => rfl

theorem layout_record (level : Nat) {members : List (String × Json)} (hne : members ≠ []) :
    layout level (.record members) =
      '\x7b' :: (layoutMembers (level + 1) (members.map fun member => (some member.1, member.2)) ++
        newline level ++ ['\x7d']) := by
  cases members with
  | nil => exact absurd rfl hne
  | cons => rfl

/-- **A document is laid out over lines as one of its spellings.** -/
theorem Plain.spells_layout {json : Json} (h : Plain json) (level : Nat) :
    Spells (.value json) (layout level json) := by
  induction h generalizing level with
  | null => exact .null
  | bool b => cases b with
    | true => exact .yes
    | false => exact .no
  | number h => exact .number h
  | text s => exact .text (spellsText_flatMap s.toList)
  | @array items _ ih =>
    rcases eq_or_ne items [] with rfl | hne
    · exact .emptyArray space_nil
    · rw [layout_array level hne, layoutItems_eq]
      exact .array (spells_intercalate_items (layout (level + 1)) (space_newline (level + 1))
        (space_newline level) hne fun item hitem => ih item hitem (level + 1))
  | @record members _ ih =>
    rcases eq_or_ne members [] with rfl | hne
    · exact .emptyRecord space_nil
    · rw [layout_record level hne, layoutMembers_eq]
      exact .record (spells_intercalate_members (layout (level + 1)) (space_newline (level + 1))
        space_singleton (space_newline level) hne
        fun member hmember => ih member hmember (level + 1))

theorem Plain.spelledBy_render {json : Json} (h : Plain json) : json.SpelledBy json.render :=
  ⟨[], compact json, [], space_nil, h.spells_compact, space_nil, by
    rw [List.append_nil, List.nil_append, render]⟩

theorem Plain.spelledBy_pretty {json : Json} (h : Plain json) : json.SpelledBy json.pretty :=
  ⟨[], layout 0 json, [], space_nil, h.spells_layout 0, space_nil, by
    rw [List.append_nil, List.nil_append, pretty]⟩

end FunctionSearch.Json
