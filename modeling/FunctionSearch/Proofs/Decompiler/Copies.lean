import FunctionSearch.Proofs.Decompiler.Batch
import Mathlib.Data.List.Forall2
import Mathlib.Data.List.Nodup

/-!
# Copies in a batch

A binary with the content of an earlier one is passed over before anything is known about the
earlier one.

* `forall_isCopy_assign_iff`: no binary is passed over exactly if the contents that can be read have
  digests of their own.
* `exists_first_of_mem_assign`: a binary is passed over for one that is decompiled in its place.
* `settles_settle`: work on the other binaries neither adds nor removes a copy.
* `forall_isFailure_iff`: where no binary is decompiled, all of them failed exactly if no two
  contents are alike. Each copy is otherwise one of a binary that failed
  (`exists_failed_of_duplicate`).
* `Fruitless.nothingDecompiled_iff`: what such a batch reports.
-/

namespace FunctionSearch.Batch

/-! ## Copies among the outcomes that are known beforehand -/

/-- The digest of the content of a binary that can be read. -/
def digest? (tree : FileTree) (binary : Path) : Option String :=
  (tree.read binary).toOption.map Digest.Sha256.hex

/-- Whether a binary is passed over as a copy. -/
def isCopy (item : Path × Option BinaryOutcome) : Bool :=
  item.2.any BinaryOutcome.isDuplicate

section Assign

variable {tree : FileTree}

theorem forall_isCopy_assignFrom_iff (seen : List (String × Path)) (binaries : List Path) :
    (∀ item ∈ assignFrom tree seen binaries, isCopy item = false) ↔
      (binaries.filterMap (digest? tree)).Nodup ∧
        ∀ digest ∈ binaries.filterMap (digest? tree), seen.lookup digest = none := by
  induction binaries generalizing seen with
  | nil => simp [assignFrom]
  | cons binary rest ih =>
    rw [assignFrom]
    cases hread : tree.read binary with
    | error cause =>
      have hdigest : digest? tree binary = none := by simp [digest?, hread, Except.toOption]
      rw [List.filterMap_cons_none hdigest]
      dsimp only
      rw [List.forall_mem_cons, ih]
      exact and_iff_right rfl
    | ok content =>
      have hdigest : digest? tree binary = some (Digest.Sha256.hex content) := by
        simp [digest?, hread, Except.toOption]
      rw [List.filterMap_cons_some hdigest]
      dsimp only
      generalize Digest.Sha256.hex content = digest
      cases hseen : seen.lookup digest with
      | some first =>
        dsimp only
        constructor
        · intro h
          cases h _ List.mem_cons_self
        · rintro ⟨-, h⟩
          cases hseen.symm.trans (h digest List.mem_cons_self)
      | none =>
        -- a later content must differ from this one as well as from those seen before
        have hlookup : ∀ other, List.lookup other ((digest, binary) :: seen) = none ↔
            other ≠ digest ∧ seen.lookup other = none := by
          intro other
          rw [List.lookup_cons]
          by_cases hother : other = digest
          · simp [hother]
          · simp [hother, beq_false_of_ne hother]
        dsimp only
        rw [List.forall_mem_cons, ih, List.nodup_cons, List.forall_mem_cons]
        simp only [hlookup]
        constructor
        · rintro ⟨-, hnodup, hfresh⟩
          exact ⟨⟨fun hmem => (hfresh _ hmem).1 rfl, hnodup⟩, hseen,
            fun other hmem => (hfresh other hmem).2⟩
        · rintro ⟨⟨hnotMem, hnodup⟩, -, hfresh⟩
          exact ⟨rfl, hnodup, fun other hmem =>
            ⟨fun h => hnotMem (h ▸ hmem), hfresh other hmem⟩⟩

/-- **No binary is passed over exactly if the contents that can be read have digests of their
own.** -/
theorem forall_isCopy_assign_iff (binaries : List Path) :
    (∀ item ∈ assign tree binaries, isCopy item = false) ↔
      (binaries.filterMap (digest? tree)).Nodup := by
  rw [assign, forall_isCopy_assignFrom_iff]
  simp

theorem exists_first_of_mem_assignFrom {seen : List (String × Path)} {binaries : List Path}
    {binary first : Path}
    (h : (binary, some (.duplicate first)) ∈ assignFrom tree seen binaries) :
    (∃ digest, (digest, first) ∈ seen) ∨ (first, none) ∈ assignFrom tree seen binaries := by
  induction binaries generalizing seen with
  | nil => cases h
  | cons other rest ih =>
    rw [assignFrom] at h ⊢
    cases hread : tree.read other with
    | error cause =>
      simp only [hread, List.mem_cons, Prod.mk.injEq, Option.some.injEq, reduceCtorEq, and_false,
        false_or] at h ⊢
      exact ih h
    | ok content =>
      simp only [hread] at h ⊢
      generalize Digest.Sha256.hex content = digest at h ⊢
      cases hseen : seen.lookup digest with
      | some found =>
        simp only [hseen, List.mem_cons, Prod.mk.injEq, Option.some.injEq,
          BinaryOutcome.duplicate.injEq, reduceCtorEq, and_false, false_or] at h ⊢
        obtain ⟨-, rfl⟩ | h := h
        · obtain ⟨key, value, heq, rest⟩ := List.lookup_eq_some_iff.mp hseen
          exact .inl ⟨digest, by simp [heq]⟩
        · exact ih h
      | none =>
        simp only [hseen, List.mem_cons, Prod.mk.injEq, reduceCtorEq, and_false, false_or,
          and_true] at h ⊢
        obtain ⟨key, hkey⟩ | hmem := ih h
        · obtain heq | hkey := List.mem_cons.mp hkey
          · exact .inr (.inl (Prod.mk.inj heq).2)
          · exact .inl ⟨key, hkey⟩
        · exact .inr (.inr hmem)

/-- **A binary is passed over for one that is decompiled in its place.** -/
theorem exists_first_of_mem_assign {binaries : List Path} {binary first : Path}
    (h : (binary, some (.duplicate first)) ∈ assign tree binaries) :
    (first, none) ∈ assign tree binaries := by
  obtain ⟨digest, hmem⟩ | hfirst := exists_first_of_mem_assignFrom h
  · cases hmem
  · exact hfirst

end Assign

/-! ## Copies in a report -/

/-- What work may make of a binary: an outcome that is known beforehand stays, and a binary that is
worked on is no copy. -/
def Settles (item : Path × Option BinaryOutcome) (report : BinaryReport) : Prop :=
  report.binary = item.1 ∧
    match item.2 with
    | some outcome => report.outcome = outcome
    | none => report.outcome.isDuplicate = false

variable {σ : Type} {decompiler : Decompiler σ} {output : Path}

theorem isDuplicate_outcomeOf (result : Except DecompileError DecompileReport) :
    (outcomeOf result).isDuplicate = false := by
  cases result <;> rfl

variable (decompiler output) in
theorem settles_settle (items : List (Path × Option BinaryOutcome)) (world : World σ) :
    List.Forall₂ Settles items (settle decompiler output items world).1 := by
  induction items generalizing world with
  | nil => exact .nil
  | cons item items ih =>
    obtain ⟨binary, outcome⟩ := item
    cases outcome with
    | some outcome => exact .cons ⟨rfl, rfl⟩ (ih _)
    | none => exact .cons ⟨rfl, isDuplicate_outcomeOf _⟩ (ih _)

theorem Settles.isDuplicate_eq {item : Path × Option BinaryOutcome} {report : BinaryReport}
    (h : Settles item report) : report.outcome.isDuplicate = isCopy item := by
  obtain ⟨binary, outcome⟩ := item
  cases outcome with
  | some outcome => exact congrArg BinaryOutcome.isDuplicate h.2
  | none => exact h.2

theorem countP_isDuplicate_of_settles {items : List (Path × Option BinaryOutcome)}
    {reports : List BinaryReport} (h : List.Forall₂ Settles items reports) :
    reports.countP (·.outcome.isDuplicate) = items.countP isCopy := by
  induction h with
  | nil => rfl
  | cons hitem _ ih => rw [List.countP_cons, List.countP_cons, ih, hitem.isDuplicate_eq]

/-- What stands in the first of two lists that correspond has its counterpart in the second. -/
theorem exists_rel_of_mem {α β : Type} {R : α → β → Prop} {l : List α} {m : List β}
    (h : List.Forall₂ R l m) {a : α} (ha : a ∈ l) : ∃ b ∈ m, R a b := by
  induction h with
  | nil => cases ha
  | cons hab _ ih =>
    obtain rfl | ha := List.mem_cons.mp ha
    · exact ⟨_, List.mem_cons_self, hab⟩
    · obtain ⟨b, hb, hR⟩ := ih ha
      exact ⟨b, List.mem_cons_of_mem _ hb, hR⟩

theorem isFailure_eq_true_iff (outcome : BinaryOutcome) :
    outcome.isFailure = true ↔
      outcome.isDecompiled = false ∧ outcome.isDuplicate = false := by
  cases outcome <;>
    simp [BinaryOutcome.isFailure, BinaryOutcome.isDecompiled, BinaryOutcome.isDuplicate]

/-- A batch reports that nothing was decompiled if it has binaries and all of them failed. -/
theorem nothingDecompiled_eq_true_iff (report : BatchReport) :
    report.nothingDecompiled = true ↔
      report.binaries ≠ [] ∧ ∀ item ∈ report.binaries, item.outcome.isFailure = true := by
  simp only [BatchReport.nothingDecompiled, BatchReport.total, BatchReport.succeeded,
    BatchReport.duplicates, Bool.and_eq_true, decide_eq_true_eq, beq_iff_eq, List.length_pos_iff,
    List.countP_eq_zero, Bool.not_eq_true, and_assoc, isFailure_eq_true_iff, forall₂_and]

section Report

variable {binaries : List Path} {world : World σ}
  (hnone : ∀ item ∈ (decompileAll decompiler binaries output world).1.report.binaries,
    item.outcome.isDecompiled = false)

include hnone

/-- **Where no binary is decompiled, all of them failed exactly if no two contents are alike.** -/
theorem forall_isFailure_iff :
    (∀ item ∈ (decompileAll decompiler binaries output world).1.report.binaries,
      item.outcome.isFailure = true) ↔ (binaries.filterMap (digest? world.files)).Nodup := by
  have hsettles := settles_settle decompiler output (assign world.files binaries) world
  have hcount : (decompileAll decompiler binaries output world).1.report.duplicates =
      (assign world.files binaries).countP isCopy := countP_isDuplicate_of_settles hsettles
  have hcopies : (∀ item ∈ (decompileAll decompiler binaries output world).1.report.binaries,
      item.outcome.isDuplicate = false) ↔
        ∀ item ∈ assign world.files binaries, isCopy item = false := by
    simp only [← Bool.not_eq_true, ← List.countP_eq_zero]
    rw [← hcount, BatchReport.duplicates]
  rw [← forall_isCopy_assign_iff, ← hcopies]
  refine forall₂_congr fun item hitem => ?_
  rw [isFailure_eq_true_iff, and_iff_right (hnone item hitem)]

/-- **Where no binary is decompiled, every copy is one of a binary that failed.** -/
theorem exists_failed_of_duplicate {item : BinaryReport} {first : Path}
    (hitem : item ∈ (decompileAll decompiler binaries output world).1.report.binaries)
    (houtcome : item.outcome = .duplicate first) :
    ∃ other ∈ (decompileAll decompiler binaries output world).1.report.binaries,
      other.binary = first ∧ other.outcome.isFailure = true := by
  have hsettles := settles_settle decompiler output (assign world.files binaries) world
  obtain ⟨⟨binary, outcome⟩, hmem, -, hsettled⟩ :=
    exists_rel_of_mem (R := fun report item => Settles item report) hsettles.flip hitem
  cases outcome with
  | none =>
    rw [houtcome] at hsettled
    cases hsettled
  | some outcome =>
    obtain rfl : .duplicate first = outcome := houtcome.symm.trans hsettled
    obtain ⟨other, hother, hbinary, hwork⟩ :=
      exists_rel_of_mem hsettles (exists_first_of_mem_assign hmem)
    refine ⟨other, hother, hbinary, ?_⟩
    rw [isFailure_eq_true_iff]
    exact ⟨hnone other hother, hwork⟩

end Report

/-! ## Batches without success -/

/-- No two of the contents that can be read are alike. -/
def Distinct (tree : FileTree) (binaries : List Path) : Prop :=
  (binaries.filterMap (digest? tree)).Nodup

instance (tree : FileTree) (binaries : List Path) : Decidable (Distinct tree binaries) :=
  inferInstanceAs (Decidable (List.Nodup _))

/-- A batch that has binaries, none of which is decompiled. -/
structure Fruitless (decompiler : Decompiler σ) (binaries : List Path) (output : Path)
    (world : World σ) : Prop where
  nonempty : binaries ≠ []
  none_decompiled : ∀ item ∈ (decompileAll decompiler binaries output world).1.report.binaries,
    item.outcome.isDecompiled = false

/-- **A batch without success is reported as one exactly if no two contents are alike.** -/
theorem Fruitless.nothingDecompiled_iff {binaries : List Path} {world : World σ}
    (h : Fruitless decompiler binaries output world) :
    (decompileAll decompiler binaries output world).1.report.nothingDecompiled = true ↔
      Distinct world.files binaries := by
  have hlength : (decompileAll decompiler binaries output world).1.report.binaries.length =
      binaries.length :=
    (settles_settle decompiler output (assign world.files binaries) world).length_eq.symm.trans
      (length_assign world.files binaries)
  have hreports : (decompileAll decompiler binaries output world).1.report.binaries ≠ [] := by
    rw [← List.length_pos_iff, hlength, List.length_pos_iff]
    exact h.nonempty
  rw [nothingDecompiled_eq_true_iff, and_iff_right hreports]
  exact forall_isFailure_iff h.none_decompiled

end FunctionSearch.Batch
