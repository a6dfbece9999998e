import FunctionSearch.Proofs.Artifact.Name

/-!
# Functions whose artifacts share a name

An artifact name joins sanitised fields, and neither the sanitised fields nor the place where they
are joined can always be told from it. Two functions of the same second then get one name, and the
file of the second takes the place of the file of the first.

* `Overlaps`: a longer binary name takes in the start of a function name.
* `join_eq_join_iff`: two pairs of fields are joined to one text exactly if they are equal or one
  overlaps the other.
* `fileName_eq_fileName_iff`: exactly which functions share a name, and names for which none do.
* `fileName_shared`: functions that do.
-/

namespace FunctionSearch.Artifact

/-! ## Joined fields -/

/-- The second binary name is the first one and the start of the first function name, up to a
separator that the first function name holds or begins in the middle of. -/
inductive Overlaps (binary function binary' function' : List Char) : Prop where
  | underscore (hbinary : binary' = binary ++ ['_']) (hfunction : function = '_' :: function')
  | inside (middle : List Char) (hbinary : binary' = binary ++ separator ++ middle)
      (hfunction : function = middle ++ separator ++ function')

/-- What stands between the start of a separator and the start of a later one. -/
theorem separator_append_eq_iff {function between function' : List Char} :
    separator ++ function = between ++ (separator ++ function') ↔
      (between = [] ∧ function = function') ∨
      (between = ['_'] ∧ function = '_' :: function') ∨
      ∃ middle, between = separator ++ middle ∧ function = middle ++ separator ++ function' := by
  rcases between with _ | ⟨c, _ | ⟨d, middle⟩⟩
  · simp [separator]
  · simp [separator, eq_comm]
  · simp [separator, eq_comm, and_assoc]

theorem Overlaps.join_eq {binary function binary' function' : List Char}
    (h : Overlaps binary function binary' function') :
    binary ++ separator ++ function = binary' ++ separator ++ function' := by
  cases h with
  | underscore hbinary hfunction => simp [hbinary, hfunction, separator]
  | inside middle hbinary hfunction => simp [hbinary, hfunction]

/-- Of two equal joined texts whose binary names are not equal, one overlaps the other. -/
theorem eq_or_overlaps {binary function between function' : List Char}
    (h : separator ++ function = between ++ (separator ++ function')) :
    (binary = binary ++ between ∧ function = function') ∨
      Overlaps binary function (binary ++ between) function' := by
  obtain ⟨rfl, rfl⟩ | ⟨rfl, hfunction⟩ | ⟨middle, rfl, hfunction⟩ := separator_append_eq_iff.mp h
  · exact .inl ⟨(List.append_nil binary).symm, rfl⟩
  · exact .inr (.underscore rfl hfunction)
  · exact .inr (.inside middle (List.append_assoc ..).symm hfunction)

/-- **When two pairs of fields are joined to one text.** -/
theorem join_eq_join_iff {binary function binary' function' : List Char} :
    binary ++ separator ++ function = binary' ++ separator ++ function' ↔
      (binary = binary' ∧ function = function') ∨ Overlaps binary function binary' function' ∨
        Overlaps binary' function' binary function := by
  constructor
  · intro h
    rw [List.append_assoc, List.append_assoc] at h
    obtain ⟨between, rfl, hjoin⟩ | ⟨between, rfl, hjoin⟩ := List.append_eq_append_iff.mp h
    · exact (eq_or_overlaps hjoin).imp_right .inl
    · exact (eq_or_overlaps hjoin).imp (fun h => ⟨h.1.symm, h.2.symm⟩) .inr
  · rintro (⟨rfl, rfl⟩ | hoverlaps | hoverlaps)
    · rfl
    · exact hoverlaps.join_eq
    · exact hoverlaps.join_eq.symm

/-! ## Names -/

/-- The time and the text in front of it can be told from a name. -/
theorem toList_fileName_eq_iff {rest rest' : List Char} {epoch epoch' : Nat} :
    rest ++ separator ++ Number.numeral epoch ++ extension =
        rest' ++ separator ++ Number.numeral epoch' ++ extension ↔
      rest = rest' ∧ epoch = epoch' := by
  refine ⟨fun h => ?_, fun ⟨hrest, hepoch⟩ => by rw [hrest, hepoch]⟩
  have hsplit := congrArg (Text.splitLast? separator) (List.append_cancel_right h)
  rw [splitLast?_numeral, splitLast?_numeral, Option.some_inj, Prod.mk.injEq] at hsplit
  refine ⟨hsplit.1, ?_⟩
  have hread := congrArg Number.natural? hsplit.2
  rwa [Number.natural?_numeral, Number.natural?_numeral, Option.some_inj] at hread

/-- Two functions whose sanitised fields a name does not tell apart. -/
def Confusable (binary function binary' function' : String) : Prop :=
  (sanitize binary = sanitize binary' ∧ sanitize function = sanitize function') ∨
    Overlaps (sanitize binary).toList (sanitize function).toList (sanitize binary').toList
      (sanitize function').toList ∨
    Overlaps (sanitize binary').toList (sanitize function').toList (sanitize binary).toList
      (sanitize function).toList

theorem fileName_eq_iff_confusable {binary function binary' function' : String}
    {epoch epoch' : Nat} :
    fileName binary function epoch = fileName binary' function' epoch' ↔
      epoch = epoch' ∧ Confusable binary function binary' function' := by
  rw [← String.toList_inj, toList_fileName, toList_fileName, toList_fileName_eq_iff,
    join_eq_join_iff, String.toList_inj, String.toList_inj, and_comm, Confusable]

/-- A name that is written as it is. -/
def IsExact (name : String) : Prop :=
  ∀ c ∈ name.toList, isAllowed c = true

instance (name : String) : Decidable (IsExact name) :=
  inferInstanceAs (Decidable (∀ c ∈ name.toList, isAllowed c = true))

theorem IsExact.sanitize_eq {name : String} (h : IsExact name) : sanitize name = name := by
  rw [sanitize, map_sanitizeChar_of_isAllowed h, String.ofList_toList]

/-- A binary name without separator that does not end in an underscore overlaps no other one. -/
theorem not_overlaps {binary function binary' function' : List Char}
    (hseparator : ¬ separator <:+: binary') (hunderscore : binary'.getLast? ≠ some '_') :
    ¬ Overlaps binary function binary' function' := by
  rintro (⟨rfl, -⟩ | ⟨middle, rfl, -⟩)
  · exact hunderscore List.getLast?_concat
  · exact hseparator ⟨binary, middle, rfl⟩

/-- **Which functions share a name.** The names of two functions are equal exactly if their times
are equal and their sanitised fields are, or one pair of sanitised fields overlaps the other. Of
names that are written as they are, and binary names that hold no separator and end in no
underscore, distinct pairs never share one. -/
theorem fileName_eq_fileName_iff (binary function binary' function' : String) (epoch epoch' : Nat) :
    (fileName binary function epoch = fileName binary' function' epoch' ↔
      epoch = epoch' ∧ Confusable binary function binary' function') ∧
    (IsExact binary → IsExact function → IsExact binary' → IsExact function' →
      (∀ name ∈ [binary, binary'],
        ¬ separator <:+: name.toList ∧ name.toList.getLast? ≠ some '_') →
      (binary, function) ≠ (binary', function') →
      fileName binary function epoch ≠ fileName binary' function' epoch') := by
  refine ⟨fileName_eq_iff_confusable,
    fun hbinary hfunction hbinary' hfunction' hplain hne heq => ?_⟩
  rw [fileName_eq_iff_confusable, Confusable, hbinary.sanitize_eq, hfunction.sanitize_eq,
    hbinary'.sanitize_eq, hfunction'.sanitize_eq] at heq
  rw [List.forall_mem_cons, List.forall_mem_singleton] at hplain
  obtain ⟨-, ⟨rfl, rfl⟩ | hoverlaps | hoverlaps⟩ := heq
  · exact hne rfl
  · exact not_overlaps hplain.2.1 hplain.2.2 hoverlaps
  · exact not_overlaps hplain.1.1 hplain.1.2 hoverlaps

/-- The same function of two binaries with such names. -/
theorem fileName_ne_fileName_plain :
    ("lib-a.so", "__init") ≠ ("lib_a.so", "__init") ∧
      fileName "lib-a.so" "__init" 1 ≠ fileName "lib_a.so" "__init" 1 := by
  have hne : ("lib-a.so", "__init") ≠ ("lib_a.so", "__init") := by decide
  refine ⟨hne, (fileName_eq_fileName_iff "lib-a.so" "__init" "lib_a.so" "__init" 1 1).2
    ?_ ?_ ?_ ?_ ?_ hne⟩
  all_goals decide +kernel

/-- **Distinct functions share a name**: of one binary, if a character is replaced; and of two
binaries, if an underscore can belong to either field. -/
theorem fileName_shared :
    ("a", "f g") ≠ ("a", "f_g") ∧ fileName "a" "f g" 1 = fileName "a" "f_g" 1 ∧
      ("a", "_f") ≠ ("a_", "f") ∧ fileName "a" "_f" 1 = fileName "a_" "f" 1 := by
  decide +kernel

end FunctionSearch.Artifact
