import FunctionSearch.Proofs.Text.Boundary
import FunctionSearch.Text.Scan

/-!
# Scans count occurrences

The scan with two indices ends with the number of occurrences.

* `Scan.Sound`: what an attempt has found to agree does agree, and it has not run over the pattern.
* `Scan.Sound.step`: one turn of the loop keeps this, goes on closer to the end (`Scan.work`) with
  the same number of occurrences still to come out (`Scan.total`), or ends with that number. It
  never asks for an element that is not there.
* `Scan.Sound.ends`: so every scan ends, with this number; `Scan.ends_initial_iff` is the case of a
  whole list. With a pattern without elements it would go on for ever (`Scan.not_ends_nil`).
* `scan_counts_occurrences`: what the number says of bytes, and of texts whose bytes are scanned.
-/

namespace FunctionSearch.Text

variable {α : Type} [BEq α] {pattern s : List α}

namespace Scan

/-- The elements that have agreed in the present attempt are those of the pattern. -/
structure Sound (pattern s : List α) (scan : Scan) : Prop where
  le : scan.agreed ≤ pattern.length
  agrees : (s.drop scan.start).take scan.agreed = pattern.take scan.agreed

/-- The number of occurrences that a scan comes to, with those that it has counted. -/
def total (pattern s : List α) (scan : Scan) : Nat :=
  scan.count + occurrences pattern (s.drop scan.start)

/-- How much a scan has left: of the list, and of the pattern in the present attempt. -/
def work (pattern s : List α) (scan : Scan) : Nat × Nat :=
  (s.length - scan.start, pattern.length - scan.agreed)

/-- One scan is closer to its end than another one. -/
def Closer (pattern s : List α) (next scan : Scan) : Prop :=
  Prod.Lex (· < ·) (· < ·) (next.work pattern s) (scan.work pattern s)

variable {scan : Scan}

/-! ## The turns of the loop -/

theorem step_of_lt (h : s.length < scan.start + pattern.length) :
    scan.step pattern s = .done scan.count := by
  rw [step, if_neg (Nat.not_le.mpr h)]

theorem step_of_agreed (h : scan.start + pattern.length ≤ s.length)
    (hall : pattern.length ≤ scan.agreed) :
    scan.step pattern s = .goOn ⟨scan.count + 1, scan.start + pattern.length, 0⟩ := by
  rw [step, if_pos h, if_neg (Nat.not_lt.mpr hall)]

/-- Within an attempt both elements that are compared are there. -/
theorem exists_step_of_lt (h : scan.start + pattern.length ≤ s.length)
    (hlt : scan.agreed < pattern.length) :
    ∃ a b, (s.drop scan.start)[scan.agreed]? = some a ∧ pattern[scan.agreed]? = some b ∧
      scan.step pattern s =
        if a == b then .goOn { scan with agreed := scan.agreed + 1 }
        else .goOn { scan with start := scan.start + 1, agreed := 0 } := by
  have hlength : scan.start + scan.agreed < s.length := by omega
  refine ⟨s[scan.start + scan.agreed], pattern[scan.agreed], ?_, ?_, ?_⟩
  · rw [List.getElem?_drop, List.getElem?_eq_getElem hlength]
  · rw [List.getElem?_eq_getElem hlt]
  · rw [step, if_pos h, if_pos hlt, List.getElem?_eq_getElem hlength, List.getElem?_eq_getElem hlt]

/-! ## What a turn leaves to be counted -/

variable [LawfulBEq α]

/-- No occurrence is left where too few elements are. -/
theorem total_of_lt (hpattern : pattern ≠ []) (h : s.length < scan.start + pattern.length) :
    scan.total pattern s = scan.count := by
  have hpos := List.length_pos_iff.mpr hpattern
  have hnot : ¬ pattern <:+: s.drop scan.start := fun hinfix => by
    have hle := hinfix.length_le
    rw [List.length_drop] at hle
    omega
  rw [total, occurrences_of_not_isInfix hnot, Nat.add_zero]

/-- No occurrence starts where two elements differ. -/
theorem total_of_ne {a b : α} (ha : (s.drop scan.start)[scan.agreed]? = some a)
    (hb : pattern[scan.agreed]? = some b) (hne : a ≠ b) :
    total pattern s { scan with start := scan.start + 1, agreed := 0 } = scan.total pattern s := by
  have hnot : ¬ pattern <+: s.drop scan.start := by
    rintro ⟨rest, hrest⟩
    have hlt := (List.getElem?_eq_some_iff.mp hb).1
    rw [← hrest, List.getElem?_append_left hlt, hb] at ha
    exact hne (Option.some.inj ha).symm
  have hlt := (List.getElem?_eq_some_iff.mp ha).1
  rw [List.length_drop] at hlt
  have hcons : s.drop scan.start = s[scan.start] :: s.drop (scan.start + 1) :=
    List.drop_eq_getElem_cons (by omega)
  rw [hcons] at hnot
  rw [total, total, hcons, occurrences_cons hnot]

/-- An occurrence starts where the whole pattern agrees. -/
theorem Sound.total_of_le (hsound : scan.Sound pattern s) (hpattern : pattern ≠ [])
    (hall : pattern.length ≤ scan.agreed) :
    total pattern s ⟨scan.count + 1, scan.start + pattern.length, 0⟩ = scan.total pattern s := by
  have hagrees := hsound.agrees
  rw [Nat.le_antisymm hsound.le hall, List.take_length] at hagrees
  have happend := List.take_append_drop pattern.length (s.drop scan.start)
  rw [hagrees, List.drop_drop] at happend
  rw [total, total, ← happend, occurrences_append hpattern]
  simp only
  omega

/-- **One turn** of a scan for a pattern with elements. -/
theorem Sound.step (hsound : scan.Sound pattern s) (hpattern : pattern ≠ []) :
    (∃ next, scan.step pattern s = .goOn next ∧ next.Sound pattern s ∧
      next.total pattern s = scan.total pattern s ∧ Closer pattern s next scan) ∨
    scan.step pattern s = .done (scan.total pattern s) := by
  have hpos := List.length_pos_iff.mpr hpattern
  rcases Nat.lt_or_ge s.length (scan.start + pattern.length) with hend | hroom
  · exact .inr (by rw [step_of_lt hend, total_of_lt hpattern hend])
  left
  rcases Nat.lt_or_ge scan.agreed pattern.length with hlt | hall
  · obtain ⟨a, b, ha, hb, hstep⟩ := exists_step_of_lt hroom hlt
    by_cases hab : a = b
    · -- one more element agrees
      rw [if_pos (beq_iff_eq.mpr hab)] at hstep
      refine ⟨_, hstep, ⟨hlt, ?_⟩, rfl, .right _ (by simp only; omega)⟩
      rw [List.take_add_one, List.take_add_one, hsound.agrees, ha, hb, hab]
    · -- the attempt fails
      rw [if_neg (fun heq => hab (beq_iff_eq.mp heq))] at hstep
      exact ⟨_, hstep, ⟨Nat.zero_le _, rfl⟩, total_of_ne ha hb hab,
        .left _ _ (by simp only; omega)⟩
  · -- the attempt succeeds
    exact ⟨_, step_of_agreed hroom hall, ⟨Nat.zero_le _, rfl⟩, hsound.total_of_le hpattern hall,
      .left _ _ (by simp only; omega)⟩

/-! ## Whole scans -/

/-- **A scan ends with the number of occurrences**, and reads nothing that is not there. -/
theorem Sound.ends {scan : Scan} (hsound : scan.Sound pattern s) (hpattern : pattern ≠ []) :
    Ends pattern s scan (scan.total pattern s) := by
  rcases hsound.step hpattern with ⟨next, hnext, hsound', htotal, hcloser⟩ | hdone
  · rw [← htotal]
    exact .goOn hnext (hsound'.ends hpattern)
  · exact .done hdone
termination_by scan.work pattern s
decreasing_by exact hcloser

omit [LawfulBEq α] in
/-- **A scan ends with one number at most.** -/
theorem Ends.unique {n m : Nat} (hn : Ends pattern s scan n) (hm : Ends pattern s scan m) :
    n = m := by
  induction hn with
  | done hstep =>
    cases hm with
    | done hstep' => exact Turn.done.inj (hstep.symm.trans hstep')
    | goOn hstep' => cases hstep.symm.trans hstep'
  | goOn hstep _ ih =>
    cases hm with
    | done hstep' => cases hstep.symm.trans hstep'
    | goOn hstep' hnext =>
      obtain rfl := Turn.goOn.inj (hstep.symm.trans hstep')
      exact ih hnext

/-- **The scan of a whole list counts the occurrences of a pattern with elements.** -/
theorem ends_initial_iff (hpattern : pattern ≠ []) {n : Nat} :
    Ends pattern s initial n ↔ n = occurrences pattern s := by
  have hsound : initial.Sound pattern s := ⟨Nat.zero_le _, rfl⟩
  have htotal : initial.total pattern s = occurrences pattern s := Nat.zero_add _
  have hends := htotal ▸ hsound.ends hpattern
  exact ⟨fun h => h.unique hends, fun h => h ▸ hends⟩

omit [LawfulBEq α] in
/-- A pattern without elements is found at every turn, and the scan gets no further. -/
theorem step_nil (hle : scan.start ≤ s.length) :
    scan.step [] s = .goOn ⟨scan.count + 1, scan.start, 0⟩ :=
  step_of_agreed hle (Nat.zero_le _)

omit [LawfulBEq α] in
/-- **A scan for a pattern without elements never ends.** -/
theorem not_ends_nil {n : Nat} (hle : scan.start ≤ s.length) : ¬ Ends [] s scan n := by
  intro hends
  induction hends with
  | done hstep => cases hstep.symm.trans (step_nil hle)
  | goOn hstep _ ih =>
    cases hstep.symm.trans (step_nil hle)
    exact ih hle

end Scan

/-- **A scan for a pattern with elements ends, reads nothing that is not there, and counts the
occurrences.** In the bytes of a text it counts those in the text. -/
theorem scan_counts_occurrences :
    (∀ pattern s : Bytes, pattern ≠ [] →
      (∀ n, Scan.Ends pattern s .initial n ↔ n = occurrences pattern s) ∧
      Counts pattern s (occurrences pattern s)) ∧
    (∀ pattern s : List Char, pattern ≠ [] →
      (∀ n, Scan.Ends (Utf8.encode pattern) (Utf8.encode s) .initial n ↔
        n = occurrences pattern s) ∧
      Counts pattern s (occurrences pattern s)) := by
  refine ⟨fun pattern s hpattern => ?_, fun pattern s hpattern => ?_⟩
  · exact ⟨fun n => Scan.ends_initial_iff hpattern, counts_occurrences hpattern s⟩
  · refine ⟨fun n => ?_, counts_occurrences hpattern s⟩
    rw [Scan.ends_initial_iff (Utf8.encode_ne_nil hpattern), Utf8.occurrences_encode hpattern]

/-- Patterns that overlap themselves. -/
theorem scan_counts_occurrences_overlapping :
    (Scan.Ends [(0x61 : UInt8), 0x61] [0x61, 0x61, 0x61, 0x61] .initial 2 ∧
      Counts [(0x61 : UInt8), 0x61] [0x61, 0x61, 0x61, 0x61] 2) ∧
    (Scan.Ends (Utf8.encode ['é', 'é']) (Utf8.encode ['é', 'é', 'é']) .initial 1 ∧
      Counts ['é', 'é'] ['é', 'é', 'é'] 1) := by
  have htwo : occurrences [(0x61 : UInt8), 0x61] [0x61, 0x61, 0x61, 0x61] = 2 := by decide +kernel
  have hone : occurrences ['é', 'é'] ['é', 'é', 'é'] = 1 := by decide +kernel
  obtain ⟨hends, hcounts⟩ :=
    scan_counts_occurrences.1 [0x61, 0x61] [0x61, 0x61, 0x61, 0x61] (by decide)
  obtain ⟨hends', hcounts'⟩ :=
    scan_counts_occurrences.2 ['é', 'é'] ['é', 'é', 'é'] (by decide)
  rw [htwo] at hcounts
  rw [hone] at hcounts'
  exact ⟨⟨(hends 2).mpr htwo.symm, hcounts⟩, (hends' 1).mpr hone.symm, hcounts'⟩

end FunctionSearch.Text
