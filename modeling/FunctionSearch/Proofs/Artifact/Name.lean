import FunctionSearch.Artifact.Name
import FunctionSearch.Proofs.Text.Search

/-!
# Reading artifact names back

An artifact name is written by joining its fields with separators and read by looking for
separators, and both fields may hold the character that separators are made of.

* `toList_fileName`: the name that is written is the sanitised fields between separators.
* `parse?_fileName` says what is read from it. The binary that is read ends at the first separator
  of the sanitised binary and the separator behind it (`splitBinary`); what is left over falls to
  the function.
* `parse?_fileName_eq_ok_iff`: exactly which fields are read back as they were written.
-/

namespace FunctionSearch.Artifact

/-! ## What is written -/

theorem toList_sanitize (name : String) :
    (sanitize name).toList = name.toList.map sanitizeChar := by
  simp [sanitize]

theorem sanitizeChar_of_isAllowed {c : Char} (h : isAllowed c = true) : sanitizeChar c = c := by
  simp [sanitizeChar, h]

theorem map_sanitizeChar_of_isAllowed {s : List Char} (h : ∀ c ∈ s, isAllowed c = true) :
    s.map sanitizeChar = s :=
  (List.map_congr_left fun c hc => sanitizeChar_of_isAllowed (h c hc)).trans (List.map_id s)

theorem isDigit_of_mem_numeral {n : Nat} {c : Char} (h : c ∈ Number.numeral n) :
    c.isDigit = true :=
  Nat.isDigit_of_mem_toDigits (by decide) (by decide) h

theorem isAllowed_of_isDigit {c : Char} (h : c.isDigit = true) : isAllowed c = true := by
  simp [isAllowed, Char.isAlphanum, h]

theorem toList_fileName (binary function : String) (epoch : Nat) :
    (fileName binary function epoch).toList =
      (sanitize binary).toList ++ separator ++ (sanitize function).toList ++ separator ++
        Number.numeral epoch ++ extension := by
  have hs : separator.map sanitizeChar = separator := by decide
  have he : extension.map sanitizeChar = extension := by decide
  have hn : (Number.numeral epoch).map sanitizeChar = Number.numeral epoch :=
    map_sanitizeChar_of_isAllowed fun c hc => isAllowed_of_isDigit (isDigit_of_mem_numeral hc)
  simp only [fileName, toList_sanitize, String.toList_ofList, List.map_append, hs, he, hn]

/-! ## Where a binary name ends -/

/-- The part of a sanitised binary name, given as text, that a reader takes for the binary, and the
rest, which it takes for the start of the function. -/
def splitBinary (binary : String) : List Char × List Char :=
  (Text.splitFirst? separator ((sanitize binary).toList ++ separator)).getD ([], [])

theorem splitFirst?_sanitize (binary : String) :
    Text.splitFirst? separator ((sanitize binary).toList ++ separator) =
      some ((splitBinary binary).1, (splitBinary binary).2) := by
  rw [splitBinary]
  cases h : Text.splitFirst? separator ((sanitize binary).toList ++ separator) with
  | some split => rfl
  | none => exact absurd (List.infix_append_right) (Text.splitFirst?_eq_none_iff.mp h)

theorem isFirstSplit_splitBinary (binary : String) :
    Text.IsFirstSplit separator ((sanitize binary).toList ++ separator) (splitBinary binary).1
      (splitBinary binary).2 :=
  Text.splitFirst?_eq_some_iff.mp (splitFirst?_sanitize binary)

/-- An underscore behind a name without separator makes none, unless it joins one at its end. -/
theorem not_infix_append_underscore {name : List Char} (hocc : ¬ separator <:+: name)
    (hlast : name.getLast? ≠ some '_') : ¬ separator <:+: name ++ ['_'] := by
  rintro ⟨p, q, h⟩
  rcases List.eq_nil_or_concat q with rfl | ⟨q, c, rfl⟩
  · have hname : p ++ ['_'] ++ ['_'] = name ++ ['_'] := by simpa [separator] using h
    exact hlast (by simp [← List.append_cancel_right hname])
  · rw [List.concat_eq_append, ← List.append_assoc] at h
    exact hocc ⟨p, q, (List.append_inj' h rfl).1⟩

/-- The separator behind a name is the first one if the name holds none and ends in no
underscore. -/
theorem isFirstSplit_append_separator {name : List Char} (hocc : ¬ separator <:+: name)
    (hlast : name.getLast? ≠ some '_') :
    Text.IsFirstSplit separator (name ++ separator) name [] := by
  refine ⟨by simp, fun p q h => ?_⟩
  have hbefore : ¬ separator <:+: name ++ separator.dropLast :=
    not_infix_append_underscore hocc hlast
  have hbehind : ¬ separator <:+: separator.tail ++ [] := by decide
  obtain ⟨rfl, -⟩ : p = name ∧ q = [] :=
    Text.eq_and_eq_of_not_infix hbefore hbehind (by simpa using h.symm)
  exact le_rfl

/-- What stands in front of the first separator holds none, and ends in no underscore that could
begin one. -/
theorem plain_of_isFirstSplit {s name rest : List Char}
    (h : Text.IsFirstSplit separator s name rest) :
    ¬ separator <:+: name ∧ name.getLast? ≠ some '_' := by
  constructor
  · rintro ⟨p, q, rfl⟩
    have hle := h.le p (q ++ separator ++ rest) (by rw [h.eq]; simp)
    simp only [List.length_append, separator, List.length_cons] at hle
    omega
  · intro hlast
    obtain ⟨init, rfl⟩ := List.getLast?_eq_some_iff.mp hlast
    have hle := h.le init ('_' :: rest) (by rw [h.eq]; simp [separator])
    simp only [List.length_append, List.length_singleton] at hle
    omega

/-- A sanitised binary name is read as it is exactly if it holds no separator and no underscore at
its end could join the separator behind it. -/
theorem splitBinary_eq_iff (binary : String) :
    (splitBinary binary).1 = (sanitize binary).toList ↔
      ¬ separator <:+: (sanitize binary).toList ∧
        (sanitize binary).toList.getLast? ≠ some '_' := by
  have hsplit := isFirstSplit_splitBinary binary
  constructor
  · intro h
    rw [← h]
    exact plain_of_isFirstSplit hsplit
  · rintro ⟨hocc, hlast⟩
    exact (hsplit.unique (isFirstSplit_append_separator hocc hlast)).1

/-- Nothing is left over for the function behind a binary name that is read as it is. -/
theorem snd_splitBinary_of_eq {binary : String}
    (h : (splitBinary binary).1 = (sanitize binary).toList) : (splitBinary binary).2 = [] := by
  have heq := (isFirstSplit_splitBinary binary).eq
  rw [h] at heq
  simpa using heq

/-! ## What is read -/

theorem stem_append_extension (s : List Char) : stem (s ++ extension) = s := by
  have hsuffix : extension.isSuffixOf (s ++ extension) = true :=
    List.isSuffixOf_iff_suffix.mpr (List.suffix_append s extension)
  rw [stem, if_pos hsuffix, List.length_append, Nat.add_sub_cancel, List.take_left]

/-- A time is found behind the last separator, since it holds no underscore. -/
theorem splitLast?_numeral (rest : List Char) (epoch : Nat) :
    Text.splitLast? separator (rest ++ separator ++ Number.numeral epoch) =
      some (rest, Number.numeral epoch) := by
  refine Text.splitLast?_eq_some_iff.mpr (Text.IsLastSplit.of_notMem (a := '_') rfl fun h => ?_)
  exact absurd (isDigit_of_mem_numeral h) (by decide)

theorem naturalBelow?_numeral {bound n : Nat} (h : n < bound) :
    Number.naturalBelow? bound (Number.numeral n) = some n := by
  simp [Number.naturalBelow?, Number.natural?_numeral, h]

theorem toNat_lt_epochBound (epoch : UInt64) : epoch.toNat < epochBound := by
  have hbound : epochBound = 2 ^ 64 := by decide
  rw [hbound]
  exact epoch.toNat_lt

/-- The fields of a stem that ends in a time are those of the text in front of its last
separator. -/
theorem splitEpoch?_numeral (rest : List Char) {epoch : Nat} (h : epoch < epochBound) :
    splitEpoch? (rest ++ separator ++ Number.numeral epoch) =
      (Text.splitFirst? separator rest).map fun (binary, function) =>
        (binary, function, epoch) := by
  simp only [splitEpoch?, splitLast?_numeral, naturalBelow?_numeral h]
  cases Text.splitFirst? separator rest <;> rfl

/-- **What is read from a name that was written**: the binary up to its first separator, the rest
with the function, and the time. -/
theorem parse?_fileName (binary function : String) {epoch : Nat} (h : epoch < epochBound) :
    parse? (fileName binary function epoch) =
      if (splitBinary binary).1.isEmpty then .error .emptyBinary
      else if ((splitBinary binary).2 ++ (sanitize function).toList).isEmpty then
        .error .emptyFunction
      else .ok ⟨String.ofList (splitBinary binary).1,
        String.ofList ((splitBinary binary).2 ++ (sanitize function).toList), some epoch⟩ := by
  have hfirst : Text.splitFirst? separator
      ((sanitize binary).toList ++ separator ++ (sanitize function).toList) =
        some ((splitBinary binary).1, (splitBinary binary).2 ++ (sanitize function).toList) :=
    Text.splitFirst?_append (splitFirst?_sanitize binary) _
  rw [parse?, toList_fileName, stem_append_extension, split?, splitEpoch?_numeral _ h, hfirst,
    Option.map_some]

/-- Plain fields are read back as they were sanitised. -/
theorem parse?_fileName_of_plain {binary function : String} {epoch : Nat}
    (hbinary : sanitize binary ≠ "") (hfunction : sanitize function ≠ "")
    (hplain : ¬ separator <:+: (sanitize binary).toList ∧
      (sanitize binary).toList.getLast? ≠ some '_') (hepoch : epoch < epochBound) :
    parse? (fileName binary function epoch) =
      .ok ⟨sanitize binary, sanitize function, some epoch⟩ := by
  have hread := (splitBinary_eq_iff binary).mpr hplain
  rw [parse?_fileName binary function hepoch, hread, snd_splitBinary_of_eq hread, List.nil_append,
    if_neg, if_neg, String.ofList_toList, String.ofList_toList]
  · simpa using hfunction
  · simpa using hbinary

/-- **The fields that are read back as they were written**: both sanitised names hold something,
and the binary's holds no separator and does not end in an underscore. The function may hold any
underscores. -/
theorem parse?_fileName_eq_ok_iff (binary function : String) (epoch : UInt64) :
    parse? (fileName binary function epoch.toNat) =
        .ok ⟨sanitize binary, sanitize function, some epoch.toNat⟩ ↔
      sanitize binary ≠ "" ∧ sanitize function ≠ "" ∧
        ¬ separator <:+: (sanitize binary).toList ∧
        (sanitize binary).toList.getLast? ≠ some '_' := by
  rw [parse?_fileName binary function (toNat_lt_epochBound epoch), ← splitBinary_eq_iff]
  constructor
  · intro h
    split_ifs at h with hbinary hfunction
    simp only [Except.ok.injEq, Fields.mk.injEq, and_true] at h
    obtain ⟨hb, hf⟩ := h
    have hbinary' : (splitBinary binary).1 = (sanitize binary).toList := by
      rw [← hb, String.toList_ofList]
    refine ⟨fun he => hbinary ?_, fun he => hfunction ?_, hbinary'⟩
    · simp [hbinary', he]
    · rw [← String.toList_ofList (l := _ ++ _), hf, he]
      rfl
  · rintro ⟨hb, hf, hbinary⟩
    have hrest := snd_splitBinary_of_eq hbinary
    have hb' : (sanitize binary).toList.isEmpty = false := by
      simpa [List.isEmpty_iff] using hb
    have hf' : (sanitize function).toList.isEmpty = false := by
      simpa [List.isEmpty_iff] using hf
    simp only [hbinary, hrest, List.nil_append, hb', hf', Bool.false_eq_true, if_false,
      String.ofList_toList]

end FunctionSearch.Artifact
