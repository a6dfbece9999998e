import FunctionSearch.Proofs.Artifact.Collision
import FunctionSearch.Proofs.Number.Decimal
import FunctionSearch.Proofs.Text.Delete
import Mathlib.Algebra.Group.Nat.Defs

/-!
# The grammar of artifact names

Which names are read as artifact names, and what is read from them, said without the reader. A name
that ends in a time is split at its first separator and at its last one. Any other name is split at
every separator from the left, and its first two fields count.

* `IsStem`, `Timed`, `Chosen` and `Makes` are the parts of the grammar: the name without extension,
  a time at its end, the fields that decide, and what fields make.
* `splitEpoch?_eq_some_iff` and `splitFields?_of_isSplit`: the two ways of splitting.
* `Chosen.isFirstSplit`: either way the binary is what stands in front of the first separator.
* `parse?_eq_iff`: the reader accepts exactly the grammar, and what it reads can be written again.
-/

namespace FunctionSearch.Artifact

open Text

/-! ## The grammar -/

/-- A name less one extension at its end, if it has one. -/
inductive IsStem : List Char → List Char → Prop
  | bare {name : List Char} (hname : ¬ extension <:+ name) : IsStem name name
  | extended (stem : List Char) : IsStem (stem ++ extension) stem

/-- A stem that ends in a separator and a time, with two fields in front of them. -/
structure Timed (stem rest : List Char) (epoch : Nat) : Prop where
  ends : ∃ digits, Number.IsDecimal digits epoch ∧ stem = rest ++ separator ++ digits
  lt : epoch < 2 ^ 64
  fields : separator <:+: rest

/-- The fields that decide about a stem, and the time in it. -/
inductive Chosen (stem : List Char) : List (List Char) → Option Nat → Prop
  | timed {rest binary function : List Char} {epoch : Nat} (htimed : Timed stem rest epoch)
    (hfirst : IsFirstSplit separator rest binary function) :
    Chosen stem [binary, function] (some epoch)
  | untimed {fields : List (List Char)} (huntimed : ∀ rest epoch, ¬ Timed stem rest epoch)
    (hsplit : IsSplit separator stem fields) : Chosen stem fields none

/-- What fields make: the first two are the binary and the function, if they hold something, and
those behind them are passed over. -/
inductive Makes : List (List Char) → Option Nat → Except Defect Fields → Prop
  | missingFields {fields : List (List Char)} {epoch : Option Nat} (hfew : fields.length < 2) :
    Makes fields epoch (.error .missingFields)
  | emptyBinary {function : List Char} {later : List (List Char)} {epoch : Option Nat} :
    Makes ([] :: function :: later) epoch (.error .emptyBinary)
  | emptyFunction {binary : List Char} {later : List (List Char)} {epoch : Option Nat}
    (hbinary : binary ≠ []) : Makes (binary :: [] :: later) epoch (.error .emptyFunction)
  | fields {binary function : List Char} {later : List (List Char)} {epoch : Option Nat}
    (hbinary : binary ≠ []) (hfunction : function ≠ []) :
    Makes (binary :: function :: later) epoch
      (.ok ⟨String.ofList binary, String.ofList function, epoch⟩)

/-! ## Stems -/

theorem IsStem.stem_eq {name s : List Char} (h : IsStem name s) : stem name = s := by
  cases h with
  | bare hname => rw [stem, if_neg (mt List.isSuffixOf_iff_suffix.mp hname)]
  | extended => exact stem_append_extension s

theorem isStem_stem (name : List Char) : IsStem name (stem name) := by
  by_cases h : extension <:+ name
  · obtain ⟨s, rfl⟩ := h
    rw [stem_append_extension]
    exact .extended s
  · have hbare : IsStem name name := .bare h
    rwa [hbare.stem_eq]

theorem prefix_of_isStem {name s : List Char} (h : IsStem name s) : s <+: name := by
  cases h with
  | bare => exact List.prefix_refl _
  | extended => exact List.prefix_append s extension

/-! ## Times -/

/-- No underscore of a separator can belong to the digits behind it. -/
theorem splitLast?_of_isDecimal {rest digits : List Char} {n : Nat}
    (h : Number.IsDecimal digits n) :
    splitLast? separator (rest ++ separator ++ digits) = some (rest, digits) := by
  refine splitLast?_eq_some_iff.mpr (IsLastSplit.of_notMem (a := '_') rfl fun hmem => ?_)
  exact absurd (h.isDigit_of_mem '_' hmem) (by decide)

theorem epochBound_eq : epochBound = 2 ^ 64 := by
  decide

/-- **A stem is split at its first and at its last separator exactly if it ends in a time.** -/
theorem splitEpoch?_eq_some_iff {stem binary function : List Char} {epoch : Nat} :
    splitEpoch? stem = some (binary, function, epoch) ↔
      ∃ rest, Timed stem rest epoch ∧ IsFirstSplit separator rest binary function := by
  constructor
  · intro h
    rw [splitEpoch?] at h
    split at h
    · cases h
    next rest digits hlast =>
      split at h
      next hepoch hfirst =>
        obtain ⟨rfl, rfl, rfl⟩ : _ = binary ∧ _ = function ∧ _ = epoch := by simpa using h
        obtain ⟨hdigits, hlt⟩ := Number.naturalBelow?_eq_some_iff.mp hepoch
        have hsplit := splitFirst?_eq_some_iff.mp hfirst
        refine ⟨rest, ⟨⟨digits, hdigits, (splitLast?_eq_some_iff.mp hlast).eq⟩, ?_, ?_⟩, hsplit⟩
        · rwa [← epochBound_eq]
        · exact ⟨_, _, hsplit.eq.symm⟩
      · cases h
  · rintro ⟨rest, ⟨⟨digits, hdigits, rfl⟩, hlt, -⟩, hfirst⟩
    rw [← epochBound_eq] at hlt
    rw [splitEpoch?, splitLast?_of_isDecimal hdigits]
    simp only [Number.naturalBelow?_eq_some_iff.mpr ⟨hdigits, hlt⟩,
      splitFirst?_eq_some_iff.mpr hfirst]

/-- A text with a separator has a first one. -/
theorem exists_isFirstSplit {s : List Char} (h : separator <:+: s) :
    ∃ p q, IsFirstSplit separator s p q := by
  cases hfirst : splitFirst? separator s with
  | none => exact absurd h (splitFirst?_eq_none_iff.mp hfirst)
  | some split => exact ⟨split.1, split.2, splitFirst?_eq_some_iff.mp hfirst⟩

theorem splitEpoch?_eq_none_iff {stem : List Char} :
    splitEpoch? stem = none ↔ ∀ rest epoch, ¬ Timed stem rest epoch := by
  constructor
  · intro h rest epoch htimed
    obtain ⟨binary, function, hfirst⟩ := exists_isFirstSplit htimed.fields
    have hsome := splitEpoch?_eq_some_iff.mpr ⟨rest, htimed, hfirst⟩
    cases h.symm.trans hsome
  · intro h
    cases hsplit : splitEpoch? stem with
    | none => rfl
    | some fields =>
      obtain ⟨rest, htimed, -⟩ := splitEpoch?_eq_some_iff.mp hsplit
      exact absurd htimed (h rest fields.2.2)

/-! ## Fields -/

/-- The first two of some fields. -/
def firstTwo? : List (List Char) → Option (List Char × List Char)
  | binary :: function :: _ => some (binary, function)
  | _ => none

theorem firstTwo?_eq_none {fields : List (List Char)} (h : fields.length < 2) :
    firstTwo? fields = none := by
  cases fields with
  | nil => rfl
  | cons first later =>
    rw [List.length_cons, Nat.succ_lt_succ_iff, Nat.lt_one_iff, List.length_eq_zero_iff] at h
    rw [h]
    rfl

/-- A stem is split into the first two of its fields. -/
theorem splitFields?_of_isSplit {stem : List Char} {fields : List (List Char)}
    (h : IsSplit separator stem fields) : splitFields? stem = firstTwo? fields := by
  cases h with
  | whole hnot =>
    rw [splitFields?, splitFirst?_eq_none_iff.mpr hnot]
    rfl
  | cut hfirst hrest =>
    rw [splitFields?, splitFirst?_eq_some_iff.mpr hfirst]
    cases hrest with
    | whole hnot => simp only [splitFirst?_eq_none_iff.mpr hnot, firstTwo?]
    | cut hsecond _ => simp only [splitFirst?_eq_some_iff.mpr hsecond, firstTwo?]

theorem Chosen.split?_eq {stem : List Char} {fields : List (List Char)} {epoch : Option Nat}
    (h : Chosen stem fields epoch) :
    split? stem = (firstTwo? fields).map fun (binary, function) => (binary, function, epoch) := by
  cases h with
  | timed htimed hfirst =>
    rw [split?, splitEpoch?_eq_some_iff.mpr ⟨_, htimed, hfirst⟩]
    rfl
  | untimed huntimed hsplit =>
    rw [split?, splitEpoch?_eq_none_iff.mpr huntimed, splitFields?_of_isSplit hsplit]

/-- Some fields decide about every stem. -/
theorem exists_chosen (stem : List Char) : ∃ fields epoch, Chosen stem fields epoch := by
  by_cases h : ∃ rest epoch, Timed stem rest epoch
  · obtain ⟨rest, epoch, htimed⟩ := h
    obtain ⟨binary, function, hfirst⟩ := exists_isFirstSplit htimed.fields
    exact ⟨_, _, .timed htimed hfirst⟩
  · have hsplit : IsSplit separator stem (splitAll separator stem) :=
      isSplit_splitAll (List.cons_ne_nil _ _) stem
    exact ⟨_, none, .untimed (fun rest epoch htimed => h ⟨rest, epoch, htimed⟩) hsplit⟩

/-- All fields make something. -/
theorem exists_makes (fields : List (List Char)) (epoch : Option Nat) :
    ∃ result, Makes fields epoch result := by
  match fields with
  | [] => exact ⟨_, .missingFields Nat.zero_lt_two⟩
  | [_] => exact ⟨_, .missingFields Nat.one_lt_two⟩
  | binary :: function :: later =>
    by_cases hbinary : binary = []
    · subst hbinary
      exact ⟨_, .emptyBinary⟩
    · by_cases hfunction : function = []
      · subst hfunction
        exact ⟨_, .emptyFunction hbinary⟩
      · exact ⟨_, .fields hbinary hfunction⟩

/-! ## Reading -/

/-- What the chosen fields of a stem make is what is read. -/
theorem parse?_of_makes {name : String} {stem : List Char} {fields : List (List Char)}
    {epoch : Option Nat} {result : Except Defect Fields} (hstem : IsStem name.toList stem)
    (hchosen : Chosen stem fields epoch) (hmakes : Makes fields epoch result) :
    parse? name = result := by
  rw [parse?, hstem.stem_eq, hchosen.split?_eq]
  cases hmakes with
  | missingFields hfew =>
    rw [firstTwo?_eq_none hfew]
    rfl
  | emptyBinary => rfl
  | emptyFunction hbinary =>
    rw [← List.isEmpty_eq_false_iff] at hbinary
    simp [firstTwo?, hbinary]
  | fields hbinary hfunction =>
    rw [← List.isEmpty_eq_false_iff] at hbinary hfunction
    simp [firstTwo?, hbinary, hfunction]

theorem parse?_eq_iff_makes {name : String} {result : Except Defect Fields} :
    parse? name = result ↔ ∃ stem fields epoch,
      IsStem name.toList stem ∧ Chosen stem fields epoch ∧ Makes fields epoch result := by
  constructor
  · rintro rfl
    obtain ⟨fields, epoch, hchosen⟩ := exists_chosen (stem name.toList)
    obtain ⟨result, hmakes⟩ := exists_makes fields epoch
    have hstem := isStem_stem name.toList
    rw [parse?_of_makes hstem hchosen hmakes]
    exact ⟨_, fields, epoch, hstem, hchosen, hmakes⟩
  · rintro ⟨stem, fields, epoch, hstem, hchosen, hmakes⟩
    exact parse?_of_makes hstem hchosen hmakes

/-! ## What is read -/

/-- **Either way the binary is what stands in front of the first separator**, and the function
follows that separator. -/
theorem Chosen.isFirstSplit {stem binary function : List Char} {later : List (List Char)}
    {epoch : Option Nat} (h : Chosen stem (binary :: function :: later) epoch) :
    ∃ rest, IsFirstSplit separator stem binary (function ++ rest) := by
  cases h with
  | timed htimed hfirst =>
    obtain ⟨digits, -, rfl⟩ := htimed.ends
    have happend := splitFirst?_append (splitFirst?_eq_some_iff.mpr hfirst) (separator ++ digits)
    rw [← List.append_assoc] at happend
    exact ⟨_, splitFirst?_eq_some_iff.mp happend⟩
  | untimed _ hsplit =>
    cases hsplit with
    | cut hfirst hrest =>
      obtain ⟨rest, rfl⟩ := prefix_of_isSplit hrest
      exact ⟨rest, hfirst⟩

theorem Chosen.epoch_lt {stem : List Char} {fields : List (List Char)} {epoch : Nat}
    (h : Chosen stem fields (some epoch)) : epoch < epochBound := by
  cases h with
  | timed htimed _ => exact epochBound_eq ▸ htimed.lt

/-- What is read from a name comes from fields of its stem that hold something. -/
theorem exists_chosen_of_parse? {name : String} {fields : Fields} (h : parse? name = .ok fields) :
    fields.binary ≠ "" ∧ fields.function ≠ "" ∧ ∃ stem later, IsStem name.toList stem ∧
      Chosen stem (fields.binary.toList :: fields.function.toList :: later) fields.epoch := by
  obtain ⟨stem, split, epoch, hstem, hchosen, hmakes⟩ := parse?_eq_iff_makes.mp h
  cases hmakes with
  | fields hbinary hfunction =>
    rw [String.toList_ofList, String.toList_ofList]
    exact ⟨mt String.ofList_eq_empty_iff.mp hbinary, mt String.ofList_eq_empty_iff.mp hfunction,
      stem, _, hstem, hchosen⟩

/-- **The grammar of artifact names.** A name is read as the grammar has it, and refused for the
reason that the grammar has. What is read as a binary is not empty, holds no separator and ends in
no underscore, and the name starts with it, a separator and the function. If every character of the
name is allowed and it has a time, the fields are read again from the name that is written for
them. -/
theorem parse?_reads_grammar (name : String) :
    (∀ result, parse? name = result ↔ ∃ stem fields epoch,
      IsStem name.toList stem ∧ Chosen stem fields epoch ∧ Makes fields epoch result) ∧
    ∀ fields, parse? name = .ok fields →
      fields.binary ≠ "" ∧ ¬ separator <:+: fields.binary.toList ∧
      fields.binary.toList.getLast? ≠ some '_' ∧
      fields.binary.toList ++ separator ++ fields.function.toList <+: name.toList ∧
      ∀ epoch, fields.epoch = some epoch → IsExact name →
        parse? (fileName fields.binary fields.function epoch) = .ok fields := by
  refine ⟨fun result => parse?_eq_iff_makes, fun fields hread => ?_⟩
  obtain ⟨hbinary, hfunction, stem, later, hstem, hchosen⟩ := exists_chosen_of_parse? hread
  obtain ⟨rest, hfirst⟩ := hchosen.isFirstSplit
  have hplain := plain_of_isFirstSplit hfirst
  have hstarts : fields.binary.toList ++ separator ++ fields.function.toList <+: name.toList := by
    refine List.IsPrefix.trans ⟨rest, ?_⟩ (prefix_of_isStem hstem)
    rw [hfirst.eq, List.append_assoc _ _ rest]
  refine ⟨hbinary, hplain.1, hplain.2, hstarts, fun epoch hepoch hexact => ?_⟩
  have hexactBinary : IsExact fields.binary := fun c hc =>
    hexact c (hstarts.subset (by simp [hc]))
  have hexactFunction : IsExact fields.function := fun c hc =>
    hexact c (hstarts.subset (by simp [hc]))
  rw [hepoch] at hchosen
  rw [← hexactBinary.sanitize_eq] at hbinary hplain
  rw [← hexactFunction.sanitize_eq] at hfunction
  rw [parse?_fileName_of_plain hbinary hfunction hplain hchosen.epoch_lt, hexactBinary.sanitize_eq,
    hexactFunction.sanitize_eq, ← hepoch]

/-- A time that does not fit is the third field, which is passed over. -/
example : parse? "prog___start__18446744073709551615.c" =
      .ok ⟨"prog", "_start", some 18446744073709551615⟩ ∧
    parse? "prog___start__18446744073709551616.c" = .ok ⟨"prog", "_start", none⟩ := by
  decide +kernel

end FunctionSearch.Artifact
