import FunctionSearch.Proofs.Decompiler.Pool
import FunctionSearch.Proofs.Files.Reorder
import Mathlib.Data.List.Forall2

/-!
# Reports of batches

What a batch reports, for a decompiler whose result depends on the binary only.

* `Reported` says which reports are due: those with the outcome that is known beforehand, and else
  those with an answer of the decompiler.
* Every binary is reported in its place, with the outcome that is known beforehand or else with the
  result of the decompiler (`report_decompileAll`).
* The files of a directory and the outcomes that are known beforehand do not depend on the order in
  which a directory lists its entries (`filesOf_eq`, `assign_eq`), so neither does the report on a
  folder (`report_decompileFolder_eq`).
-/

namespace FunctionSearch.Batch

variable {σ : Type} {decompiler : Decompiler σ} {output : Path}
  {result : Path → Except DecompileError DecompileReport}

/-! ## Reports that are due -/

/-- The report on a binary for which the decompiler gave this answer. -/
inductive Answered (binary : Path) : Except DecompileError DecompileReport → BinaryReport → Prop
  | decompiled (report : DecompileReport) :
      Answered binary (.ok report) ⟨binary, .decompiled report⟩
  | failed (error : DecompileError) : Answered binary (.error error) ⟨binary, .failed error⟩

/-- The report on a binary, with the outcome that is known beforehand or else with an answer that
the decompiler may give for it. -/
inductive Reported (answers : Path → Except DecompileError DecompileReport → Prop) :
    Path × Option BinaryOutcome → BinaryReport → Prop
  | known (binary : Path) (outcome : BinaryOutcome) :
      Reported answers (binary, some outcome) ⟨binary, outcome⟩
  | answered {binary : Path} {answer : Except DecompileError DecompileReport}
      {report : BinaryReport} (h : answers binary answer)
      (hreport : Answered binary answer report) : Reported answers (binary, none) report

theorem Answered.binary_eq {binary : Path} {answer : Except DecompileError DecompileReport}
    {report : BinaryReport} (h : Answered binary answer report) : report.binary = binary := by
  cases h <;> rfl

theorem Answered.isDuplicate_eq_false {binary : Path}
    {answer : Except DecompileError DecompileReport} {report : BinaryReport}
    (h : Answered binary answer report) : report.outcome.isDuplicate = false := by
  cases h <;> rfl

theorem Reported.binary_eq {answers : Path → Except DecompileError DecompileReport → Prop}
    {item : Path × Option BinaryOutcome} {report : BinaryReport}
    (h : Reported answers item report) : report.binary = item.1 := by
  cases h with
  | known => rfl
  | answered _ hreport => exact hreport.binary_eq

theorem answered_outcomeOf (binary : Path) (answer : Except DecompileError DecompileReport) :
    Answered binary answer ⟨binary, outcomeOf answer⟩ := by
  cases answer with
  | ok report => exact .decompiled report
  | error error => exact .failed error

/-! ## Reports in place -/

/-- The reports on binaries of which some have an outcome beforehand. -/
def expectedOf (result : Path → Except DecompileError DecompileReport)
    (items : List (Path × Option BinaryOutcome)) : List BinaryReport :=
  items.map fun (binary, outcome) => ⟨binary, outcome.getD (outcomeOf (result binary))⟩

theorem forall₂_reported_expectedOf (hresult : ∀ binary world,
    (decompiler.decompile binary output world).1 = result binary)
    (items : List (Path × Option BinaryOutcome)) :
    List.Forall₂
      (Reported fun binary answer => ∀ world, (decompiler.decompile binary output world).1 = answer)
      items (expectedOf result items) := by
  rw [expectedOf, List.forall₂_map_right_iff, List.forall₂_same]
  rintro ⟨binary, outcome⟩ -
  cases outcome with
  | some outcome => exact .known binary outcome
  | none => exact .answered (hresult binary) (answered_outcomeOf binary _)

theorem map_fst_assignFrom (tree : FileTree) (seen : List (String × Path)) (binaries : List Path) :
    (assignFrom tree seen binaries).map Prod.fst = binaries := by
  induction binaries generalizing seen with
  | nil => rfl
  | cons binary rest ih =>
    rw [assignFrom]
    split
    · rw [List.map_cons, ih]
    · dsimp only
      split <;> rw [List.map_cons, ih]

theorem map_fst_assign (tree : FileTree) (binaries : List Path) :
    (assign tree binaries).map Prod.fst = binaries :=
  map_fst_assignFrom tree [] binaries

theorem length_assign (tree : FileTree) (binaries : List Path) :
    (assign tree binaries).length = binaries.length := by
  rw [← List.length_map Prod.fst, map_fst_assign]

theorem settle_fst (hresult : ∀ binary world,
    (decompiler.decompile binary output world).1 = result binary)
    (items : List (Path × Option BinaryOutcome)) (world : World σ) :
    (settle decompiler output items world).1 = expectedOf result items := by
  induction items generalizing world with
  | nil => rfl
  | cons item items ih =>
    obtain ⟨binary, outcome⟩ := item
    cases outcome with
    | none =>
      simp only [settle, expectedOf, List.map_cons, Option.getD_none, ih]
      rw [Pool.decompileOne_fst hresult, reportBy]
    | some outcome =>
      simp only [settle, expectedOf, List.map_cons, Option.getD_some, ih]

/-- **A batch reports every binary in its place.** -/
theorem report_decompileAll (hresult : ∀ binary world,
    (decompiler.decompile binary output world).1 = result binary) (binaries : List Path)
    (world : World σ) :
    (decompileAll decompiler binaries output world).1.report =
      ⟨expectedOf result (assign world.files binaries)⟩ := by
  rw [← settle_fst hresult (assign world.files binaries) world]
  rfl

/-! ## The order of a listing -/

section Order

variable {tree tree' : FileTree} (h : FileTree.Reorders tree tree')

include h

theorem assignFrom_eq (seen : List (String × Path)) (binaries : List Path) :
    assignFrom tree seen binaries = assignFrom tree' seen binaries := by
  induction binaries generalizing seen with
  | nil => rfl
  | cons binary rest ih => simp only [assignFrom, h.read_eq, ih]

theorem assign_eq (binaries : List Path) : assign tree binaries = assign tree' binaries :=
  assignFrom_eq h [] binaries

end Order

/-- Names that are sorted come out in one order, whatever order they went in. -/
theorem mergeSort_eq_of_perm {names names' : List Name} (h : names.Perm names') :
    (names.mergeSort fun a b => !decide (b < a)) = names'.mergeSort fun a b => !decide (b < a) := by
  have htrans : ∀ a b c : Name, (!decide (b < a)) = true → (!decide (c < b)) = true →
      (!decide (c < a)) = true := by
    intro a b c hab hbc
    rw [Bool.not_eq_true', decide_eq_false_iff_not] at hab hbc ⊢
    exact List.le_trans hab hbc
  have htotal : ∀ a b : Name, (!decide (b < a) || !decide (a < b)) = true := by
    intro a b
    rw [Bool.or_eq_true, Bool.not_eq_true', Bool.not_eq_true', decide_eq_false_iff_not,
      decide_eq_false_iff_not]
    exact List.le_total a b
  refine List.Perm.eq_of_pairwise ?_ (List.pairwise_mergeSort htrans htotal names)
    (List.pairwise_mergeSort htrans htotal names') ?_
  · intro a b _ _ hab hba
    rw [Bool.not_eq_true', decide_eq_false_iff_not] at hab hba
    exact List.le_antisymm hab hba
  · exact (List.mergeSort_perm names _).trans (h.trans (List.mergeSort_perm names' _).symm)

theorem filesOf_eq {tree tree' : FileTree} (h : FileTree.Reorders tree tree') (folder : Path) :
    filesOf tree folder = filesOf tree' folder := by
  rw [filesOf, filesOf]
  rcases h.list folder with ⟨cause, hcause, hcause'⟩ | ⟨entries, entries', hlist, hlist', hperm⟩
  · rw [hcause, hcause']
  · simp only [hlist, hlist']
    rw [mergeSort_eq_of_perm ((hperm.filter _).map _)]

/-- Names that are listed in order are worked on in this order. -/
theorem filesOf_of_pairwise {tree : FileTree} {folder : Path} {entries : List (Name × Entry)}
    (h : tree.list folder = .ok entries)
    (hsorted : ((entries.filter (isPlainFile ·.2)).map Prod.fst).Pairwise
      fun a b => (!decide (b < a)) = true) :
    filesOf tree folder =
      .ok (((entries.filter (isPlainFile ·.2)).map Prod.fst).map folder.child) := by
  simp only [filesOf, h]
  rw [List.mergeSort_of_pairwise hsorted]

/-- **The report on a folder does not depend on the order of its listing.** -/
theorem report_decompileFolder_eq (hresult : ∀ binary world,
    (decompiler.decompile binary output world).1 = result binary) {world world' : World σ}
    (h : FileTree.Reorders world.files world'.files) (folder : Path) :
    (decompileFolder decompiler folder output world).1.map Run.report =
      (decompileFolder decompiler folder output world').1.map Run.report := by
  rw [decompileFolder, decompileFolder, filesOf_eq h folder]
  cases filesOf world'.files folder with
  | error error => rfl
  | ok binaries =>
    have hreport := report_decompileAll hresult binaries world
    rw [assign_eq h, ← report_decompileAll hresult binaries world'] at hreport
    exact congrArg Except.ok hreport

end FunctionSearch.Batch
