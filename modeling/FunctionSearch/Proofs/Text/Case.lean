import FunctionSearch.Proofs.Text.Words
import FunctionSearch.Text.Case

/-!
# Case mappings keep words

A character may become several in another case, but none of them is white space, and there is at
least one.

* `Clear` says of an interval of code points that none of them is blank, so a row of the case table
  is checked at its two ends only.
* `isWord_mapCase`: a table of clear rows makes words of characters.
* `isWord_upper` and `isWord_lower`: so do both case mappings.
* `settled_toUpper` and `settled_toLower`: on ASCII a case mapping done twice is the mapping done
  once.
-/

namespace FunctionSearch.Text

/-! ## Intervals without white space -/

/-- The intervals of the code points with the property `White_Space`. -/
def blankIntervals : List (Nat × Nat) :=
  [(0x09, 0x0D), (0x20, 0x20), (0x85, 0x85), (0xA0, 0xA0), (0x1680, 0x1680), (0x2000, 0x200A),
    (0x2028, 0x2029), (0x202F, 0x202F), (0x205F, 0x205F), (0x3000, 0x3000)]

theorem isBlank_eq_true_iff (c : Char) : isBlank c = true ↔
    ∃ interval ∈ blankIntervals, interval.1 ≤ c.toNat ∧ c.toNat ≤ interval.2 := by
  simp only [isBlank, blankIntervals, Bool.or_eq_true, Bool.and_eq_true, decide_eq_true_eq,
    beq_iff_eq, List.mem_cons, List.not_mem_nil, or_false, exists_eq_or_imp, exists_eq_left]
  omega

/-- An interval of code points none of which is blank. -/
def Clear (first last : Nat) : Prop :=
  ∀ interval ∈ blankIntervals, last < interval.1 ∨ interval.2 < first

instance (first last : Nat) : Decidable (Clear first last) :=
  List.decidableBAll (fun interval : Nat × Nat => last < interval.1 ∨ interval.2 < first)
    blankIntervals

/-- A number that is no code point stands for the zero character. -/
theorem toNat_ofNat_eq (n : Nat) : (Char.ofNat n).toNat = n ∨ (Char.ofNat n).toNat = 0 := by
  by_cases h : n.isValidChar
  · left
    rw [Char.ofNat, dif_pos h]
    rfl
  · right
    rw [Char.ofNat, dif_neg h]
    rfl

theorem Clear.isBlank_ofNat {first last n : Nat} (h : Clear first last) (hfirst : first ≤ n)
    (hlast : n ≤ last) : isBlank (Char.ofNat n) = false := by
  rw [← Bool.not_eq_true, isBlank_eq_true_iff]
  rintro ⟨interval, hmem, hlow, hhigh⟩
  obtain heq | hzero := toNat_ofNat_eq n
  · have hclear := h interval hmem
    omega
  · -- the zero character is in front of all intervals
    have hpos : ∀ interval ∈ blankIntervals, 0 < interval.1 := by decide
    have := hpos interval hmem
    omega

/-! ## Tables that keep words -/

/-- A row of a case table whose images are not blank. -/
def ClearRow (row : Nat × Nat × Nat × Nat) : Prop :=
  Clear row.2.2.2 (row.2.2.2 + (row.2.1 - row.1))

instance (row : Nat × Nat × Nat × Nat) : Decidable (ClearRow row) :=
  inferInstanceAs (Decidable (Clear row.2.2.2 (row.2.2.2 + (row.2.1 - row.1))))

/-- An expansion to at least one character, none of them blank. -/
def ClearExpansion (expansion : Nat × List Nat) : Prop :=
  expansion.2 ≠ [] ∧ ∀ n ∈ expansion.2, isBlank (Char.ofNat n) = false

instance (expansion : Nat × List Nat) : Decidable (ClearExpansion expansion) :=
  inferInstanceAs (Decidable (expansion.2 ≠ [] ∧ ∀ n ∈ expansion.2, isBlank (Char.ofNat n) = false))

variable {rows : List (Nat × Nat × Nat × Nat)} {expansions : List (Nat × List Nat)}

theorem isBlank_of_imageIn? (hrows : ∀ row ∈ rows, ClearRow row) {n image : Nat}
    (h : imageIn? rows n = some image) : isBlank (Char.ofNat image) = false := by
  obtain ⟨⟨first, last, stride, start⟩, hmem, himage⟩ := List.exists_of_findSome?_eq_some h
  simp only [Option.ite_none_right_eq_some, Bool.and_eq_true, decide_eq_true_eq,
    Option.some.injEq] at himage
  obtain ⟨⟨⟨hfirst, hlast⟩, -⟩, rfl⟩ := himage
  have hclear : Clear start (start + (last - first)) := hrows _ hmem
  exact hclear.isBlank_ofNat (by omega) (by omega)

theorem isWord_singleton {c : Char} (hc : isBlank c = false) : IsWord [c] where
  ne_nil := List.cons_ne_nil c []
  not_blank := List.forall_mem_singleton.mpr hc

/-- **A table of clear rows and expansions makes a word of every character that is not blank.** -/
theorem isWord_mapCase (hrows : ∀ row ∈ rows, ClearRow row)
    (hexpansions : ∀ expansion ∈ expansions, ClearExpansion expansion) {c : Char}
    (hc : isBlank c = false) : IsWord (mapCase rows expansions c) := by
  rw [mapCase]
  cases himage : imageIn? rows c.toNat with
  | some image => exact isWord_singleton (isBlank_of_imageIn? hrows himage)
  | none =>
    cases hlookup : expansions.lookup c.toNat with
    | none => exact isWord_singleton hc
    | some codes =>
      obtain ⟨before, after, hsplit, -⟩ := List.lookup_eq_some_iff.mp hlookup
      have hmem : (c.toNat, codes) ∈ expansions := by
        rw [hsplit]
        exact List.mem_append_right before List.mem_cons_self
      obtain ⟨hne, hblank⟩ := hexpansions _ hmem
      exact ⟨mt List.map_eq_nil_iff.mp hne, List.forall_mem_map.mpr hblank⟩

theorem clearRow_upperRows : ∀ row ∈ CaseTable.upperRows, ClearRow row := by decide +kernel

theorem clearRow_lowerRows : ∀ row ∈ CaseTable.lowerRows, ClearRow row := by decide +kernel

theorem clearExpansion_upperExpansions :
    ∀ expansion ∈ CaseTable.upperExpansions, ClearExpansion expansion := by decide +kernel

theorem clearExpansion_lowerExpansions :
    ∀ expansion ∈ CaseTable.lowerExpansions, ClearExpansion expansion := by decide +kernel

/-! ## ASCII -/

/-- A mapping of characters that leads from an ASCII character to one on which it does nothing
more, and to white space from white space only. -/
structure Settled (f : Char → Char) (c : Char) : Prop where
  toNat_lt : (f c).toNat < 128
  twice : f (f c) = f c
  not_blank : isBlank c = false → isBlank (f c) = false

instance (f : Char → Char) (c : Char) : Decidable (Settled f c) :=
  decidable_of_iff
    ((f c).toNat < 128 ∧ f (f c) = f c ∧ (isBlank c = false → isBlank (f c) = false))
    ⟨fun ⟨h₁, h₂, h₃⟩ => ⟨h₁, h₂, h₃⟩, fun h => ⟨h.toNat_lt, h.twice, h.not_blank⟩⟩

variable {f : Char → Char} {c : Char}

/-- A mapping settles on ASCII if it does so on each of its code points. -/
theorem settled_of_forall (h : ∀ n ∈ List.range 128, Settled f (Char.ofNat n))
    (hc : c.toNat < 128) : Settled f c := by
  have hsettled := h c.toNat (List.mem_range.mpr hc)
  rwa [Char.ofNat_toNat] at hsettled

theorem settled_toUpper (hc : c.toNat < 128) : Settled Char.toUpper c :=
  settled_of_forall (by decide +kernel) hc

theorem settled_toLower (hc : c.toNat < 128) : Settled Char.toLower c :=
  settled_of_forall (by decide +kernel) hc

/-! ## The case mappings -/

/-- **Upper case makes a word of every character that is not blank.** -/
theorem isWord_upper (hc : isBlank c = false) : IsWord (upper c) := by
  by_cases hascii : c.toNat < 128
  · rw [upper_ascii hascii]
    exact isWord_singleton ((settled_toUpper hascii).not_blank hc)
  · rw [upper, if_neg hascii]
    exact isWord_mapCase clearRow_upperRows clearExpansion_upperExpansions hc

/-- **Lower case makes a word of every character that is not blank.** -/
theorem isWord_lower (hc : isBlank c = false) : IsWord (lower c) := by
  by_cases hascii : c.toNat < 128
  · rw [lower_ascii hascii]
    exact isWord_singleton ((settled_toLower hascii).not_blank hc)
  · rw [lower, if_neg hascii]
    exact isWord_mapCase clearRow_lowerRows clearExpansion_lowerExpansions hc

end FunctionSearch.Text
