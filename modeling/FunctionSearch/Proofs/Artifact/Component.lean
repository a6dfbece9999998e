import FunctionSearch.Artifact.Corpus
import FunctionSearch.Proofs.Artifact.Name
import FunctionSearch.Proofs.Files.Below
import FunctionSearch.Proofs.Text.Utf8

/-!
# Artifact names as names in a directory

The characters that an artifact name may hold include the slash, so the name of a file need not be
one that stands in a directory.

* `isName_fileName`: an artifact name is never empty, nor one or two points.
* `belongsTo_fileName`: it always belongs to its program.
* `isPart_fileName_iff`: it is a single component of a path exactly if neither field holds a slash.
* `canName_fileName`: then it can be looked up in a directory, unless it is too long.
* `exists_parts_fileName`: otherwise there is a component in front of the first slash, under which
  the rest is looked up.
-/

namespace FunctionSearch.Artifact

open FileTree

/-! ## The characters of a name -/

theorem isAllowed_of_mem_sanitize {s : String} {c : Char} (h : c ∈ (sanitize s).toList) :
    isAllowed c = true := by
  rw [toList_sanitize, List.mem_map] at h
  obtain ⟨d, -, rfl⟩ := h
  rw [sanitizeChar]
  split
  · assumption
  · decide

/-- A slash is kept, and none is made. -/
theorem slash_mem_sanitize_iff {s : String} : '/' ∈ (sanitize s).toList ↔ '/' ∈ s.toList := by
  rw [toList_sanitize, List.mem_map]
  constructor
  · rintro ⟨c, hc, hslash⟩
    rw [sanitizeChar] at hslash
    split at hslash
    · exact hslash ▸ hc
    · exact absurd hslash (by decide)
  · intro h
    exact ⟨'/', h, by decide⟩

theorem slash_mem_fileName_iff {binary function : String} (epoch : Nat) :
    '/' ∈ (fileName binary function epoch).toList ↔
      '/' ∈ binary.toList ∨ '/' ∈ function.toList := by
  have hseparator : '/' ∉ separator := by decide
  have hextension : '/' ∉ extension := by decide
  have hnumeral : '/' ∉ Number.numeral epoch := fun h =>
    absurd (isDigit_of_mem_numeral h) (by decide)
  simp only [toList_fileName, List.mem_append, slash_mem_sanitize_iff, hseparator, hnumeral,
    hextension, or_false]

/-! ## The bytes of a name -/

/-- The byte of an underscore. -/
def underscore : UInt8 := 0x5F

/-- A slash among the bytes of a text is one among its characters. -/
theorem slash_mem_bytes_iff {s : String} : Path.slash ∈ Text.bytes s ↔ '/' ∈ s.toList := by
  constructor
  · intro h
    exact Text.Utf8.ofNat_mem_of_mem_encode (b := Path.slash) (by decide) h
  · intro h
    exact List.mem_flatMap.mpr ⟨'/', h, by decide⟩

/-- A name with an underscore is not passed over. -/
theorem isName_of_mem {name : Name} (h : underscore ∈ name) : IsName name where
  nonempty := List.ne_nil_of_mem h
  ne_dot := by
    rintro rfl
    revert h
    decide
  ne_dots := by
    rintro rfl
    revert h
    decide

/-- An artifact name begins with its binary and a separator. -/
theorem bytes_fileName (binary function : String) (epoch : Nat) :
    Text.bytes (fileName binary function epoch) =
      Text.Utf8.encode ((sanitize binary).toList ++ separator) ++
        Text.Utf8.encode ((sanitize function).toList ++ separator ++ Number.numeral epoch ++
          extension) := by
  rw [Text.bytes, toList_fileName, ← Text.Utf8.encode_append]
  simp only [List.append_assoc]

theorem underscore_mem_encode_append_separator (s : List Char) :
    underscore ∈ Text.Utf8.encode (s ++ separator) :=
  List.mem_flatMap.mpr ⟨'_', List.mem_append_right s (by decide), by decide⟩

/-- **An artifact name is never passed over in a path**, as an empty part and points are. -/
theorem isName_fileName (binary function : String) (epoch : Nat) :
    IsName (Text.bytes (fileName binary function epoch)) := by
  rw [bytes_fileName]
  exact isName_of_mem (List.mem_append_left _ (underscore_mem_encode_append_separator _))

/-- **An artifact name is a single component of a path exactly if neither the binary nor the
function holds a slash.** -/
theorem isPart_fileName_iff {binary function : String} {epoch : Nat} :
    Path.IsPart (Text.bytes (fileName binary function epoch)) ↔
      '/' ∉ binary.toList ∧ '/' ∉ function.toList := by
  rw [← not_or, ← slash_mem_fileName_iff epoch, ← slash_mem_bytes_iff]
  constructor
  · exact fun h => h.slash_notMem
  · exact fun h => ⟨(isName_fileName binary function epoch).nonempty, h⟩

/-- An artifact name without slash can be looked up in a directory, unless it is too long. -/
theorem canName_fileName {binary function : String} {epoch : Nat} (hbinary : '/' ∉ binary.toList)
    (hfunction : '/' ∉ function.toList)
    (hshort : (Text.bytes (fileName binary function epoch)).length < nameLimit) :
    CanName (Text.bytes (fileName binary function epoch)) where
  part := isPart_fileName_iff.mpr ⟨hbinary, hfunction⟩
  proper := isName_fileName binary function epoch
  whole := by
    intro hmem
    have hzero : '\x00' ∈ (fileName binary function epoch).toList :=
      Text.Utf8.ofNat_mem_of_mem_encode (b := 0) (by decide) hmem
    exact absurd (isAllowed_of_mem_sanitize hzero) (by decide)
  short := hshort

/-! ## Whose names they are -/

theorem belongsTo_iff {program : String} {name : Name} :
    belongsTo program name = true ↔
      (sanitize program).toList ++ separator <+: (Text.lossy name).toList := by
  rw [belongsTo, stemOf, List.isPrefixOf_iff_prefix, Text.lossy, String.toList_ofList]

/-- **A program's own artifacts are counted for it**, whatever its name is. -/
theorem belongsTo_fileName (program function : String) (epoch : Nat) :
    belongsTo program (Text.bytes (fileName program function epoch)) = true := by
  rw [belongsTo_iff, Text.lossy_bytes, toList_fileName]
  simp only [List.append_assoc]
  exact (List.prefix_append_right_inj _).mpr (List.prefix_append separator _)

/-! ## Names with a slash -/

/-- Something is left of a path that does not consist of slashes. -/
theorem not_isEnd_parts {bytes : Bytes} {b : UInt8} (hmem : b ∈ bytes) (hb : b ≠ Path.slash) :
    ¬ IsEnd (Path.parts ⟨bytes⟩) := by
  induction bytes with
  | nil => cases hmem
  | cons a bytes ih =>
    rw [Path.parts, Text.splitWhere_cons]
    by_cases ha : a = Path.slash
    · rw [if_pos (beq_iff_eq.mpr ha)]
      have hrest := (List.mem_cons.mp hmem).resolve_left (ha ▸ hb)
      exact fun hend => ih hrest fun part hpart => hend part (List.mem_cons_of_mem _ hpart)
    · rw [if_neg (by simpa using ha)]
      cases Text.splitWhere (· == Path.slash) bytes with
      | nil => exact fun hend => absurd (hend [a] List.mem_cons_self) (List.cons_ne_nil _ _)
      | cons piece pieces =>
        exact fun hend => absurd (hend (a :: piece) List.mem_cons_self) (List.cons_ne_nil _ _)

/-- What stands in front of the first slash of an artifact name, and behind it. -/
theorem exists_bytes_fileName {binary function : String} (epoch : Nat)
    (hbinary : '/' ∉ binary.toList) (hfunction : '/' ∈ function.toList) :
    ∃ first after, Text.bytes (fileName binary function epoch) = first ++ Path.slash :: after ∧
      underscore ∈ first ∧ Path.slash ∉ first ∧ Path.dot ∈ after := by
  obtain ⟨front, behind, hsplit, hfront⟩ :=
    List.eq_append_cons_of_mem (slash_mem_sanitize_iff.mpr hfunction)
  refine ⟨Text.Utf8.encode ((sanitize binary).toList ++ separator ++ front),
    Text.Utf8.encode (behind ++ separator ++ Number.numeral epoch ++ extension), ?_, ?_, ?_, ?_⟩
  · have hslash (s : List Char) :
        Path.slash :: Text.Utf8.encode s = Text.Utf8.encode ('/' :: s) := rfl
    rw [hslash, Text.bytes, toList_fileName, hsplit, ← Text.Utf8.encode_append]
    simp only [List.append_assoc, List.cons_append]
  · rw [Text.Utf8.encode_append]
    exact List.mem_append_left _ (underscore_mem_encode_append_separator _)
  · intro hmem
    have hchar : '/' ∈ (sanitize binary).toList ++ separator ++ front :=
      Text.Utf8.ofNat_mem_of_mem_encode (b := Path.slash) (by decide) hmem
    simp only [List.mem_append, slash_mem_sanitize_iff, hbinary, hfront, or_false,
      false_or] at hchar
    exact absurd hchar (by decide)
  · exact List.mem_flatMap.mpr ⟨'.', List.mem_append_right _ (by decide), by decide⟩

/-- **A function name with a slash ends the first component of the artifact name**, and there is
more to be looked up behind it. -/
theorem exists_parts_fileName {binary function : String} (epoch : Nat)
    (hbinary : '/' ∉ binary.toList) (hfunction : '/' ∈ function.toList) :
    ∃ first rest, Path.parts ⟨Text.bytes (fileName binary function epoch)⟩ = first :: rest ∧
      IsName first ∧ ¬ IsEnd rest ∧
      Path.isAbsolute ⟨Text.bytes (fileName binary function epoch)⟩ = false := by
  obtain ⟨first, after, hbytes, hunderscore, hslash, hdot⟩ :=
    exists_bytes_fileName epoch hbinary hfunction
  have hpart : Path.IsPart first := ⟨List.ne_nil_of_mem hunderscore, hslash⟩
  refine ⟨first, Path.parts ⟨after⟩, ?_, isName_of_mem hunderscore,
    not_isEnd_parts hdot (by decide), ?_⟩
  · rw [hbytes, Path.parts_append_slash, hpart.parts, List.singleton_append]
  · have happend : Path.isAbsolute ⟨first ++ Path.slash :: after⟩ = Path.isAbsolute ⟨first⟩ :=
      isAbsolute_append hpart.nonempty _
    rw [hbytes, happend, hpart.isAbsolute]

end FunctionSearch.Artifact
