import FunctionSearch.Search.Run

/-!
# Searches that are refused

A search looks at its output directory and at its target before it does anything.

* `Refused` says why a search may be refused: something stands in the output directory, the
  directory cannot be listed although it is there, or the target is neither a file nor a directory.
* `run_of_refused`: a search that is refused changes nothing and shows nothing, whatever the
  decompiler and the model would do.
* `run_of_result_eq_error`: a search that fails at all either has done nothing or cannot read what
  its batch left.
-/

namespace FunctionSearch.Search

variable {σ : Type} {search : Search σ} {tree : FileTree} {target output : Path}
  {description : String} {world : World σ} {error : SearchError}

/-- Why a search is refused before it has begun. -/
inductive Refused (tree : FileTree) (target output : Path) : SearchError → Prop
  | occupied {entries : List (Name × Entry)} (hlist : tree.list output = .ok entries)
    (hentries : entries ≠ []) : Refused tree target output (.outputNotEmpty output)
  | unlistable {cause : IoError} (hlist : tree.list output = .error cause)
    (hcause : cause ≠ .notFound) : Refused tree target output (.artifacts output cause)
  | missing (houtput : tree.list output = .ok [] ∨ tree.list output = .error .notFound)
    (hdirectory : tree.isDirectory target = false) (hfile : tree.isFile target = false) :
    Refused tree target output (.decompile (.missingBinary target))

/-- An output directory passes if there is nothing in it, or no such directory. -/
theorem checkOutput_eq_ok_iff :
    checkOutput tree output = .ok () ↔
      tree.list output = .ok [] ∨ tree.list output = .error .notFound := by
  rw [checkOutput]
  cases tree.list output with
  | error cause => by_cases hcause : cause = .notFound <;> simp [hcause]
  | ok entries => cases entries <;> simp

theorem checkOutput_of_occupied {entries : List (Name × Entry)}
    (hlist : tree.list output = .ok entries) (hentries : entries ≠ []) :
    checkOutput tree output = .error (.outputNotEmpty output) := by
  obtain ⟨entry, rest, rfl⟩ := List.exists_cons_of_ne_nil hentries
  rw [checkOutput, hlist]

theorem checkOutput_of_unlistable {cause : IoError} (hlist : tree.list output = .error cause)
    (hcause : cause ≠ .notFound) : checkOutput tree output = .error (.artifacts output cause) := by
  rw [checkOutput, hlist]
  exact if_neg hcause

/-- **A search that is refused leaves everything as it is.** -/
theorem run_of_refused (search : Search σ) (description : String)
    (h : Refused world.files target output error) :
    search.run target description output world = (⟨[], [], .error error⟩, world) := by
  rw [run]
  cases h with
  | occupied hlist hentries => rw [checkOutput_of_occupied hlist hentries]
  | unlistable hlist hcause => rw [checkOutput_of_unlistable hlist hcause]
  | missing houtput hdirectory hfile =>
    have hbatch : Batch.decompileTarget search.decompiler target output world =
        (.error (.missingBinary target), world) := by
      simp [Batch.decompileTarget, hdirectory, hfile]
    rw [checkOutput_eq_ok_iff.mpr houtput]
    simp only [hbatch]

/-- A batch that comes to no end has not begun. -/
theorem decompileTarget_of_error {decompiler : Decompiler σ} {failure : DecompileError}
    (h : (Batch.decompileTarget decompiler target output world).1 = .error failure) :
    Batch.decompileTarget decompiler target output world = (.error failure, world) := by
  unfold Batch.decompileTarget Batch.decompileFolder at h ⊢
  split at h
  · next hdirectory =>
    rw [if_pos hdirectory]
    cases hfiles : Batch.filesOf world.files target with
    | error other =>
      rw [hfiles] at h
      obtain rfl := Except.error.inj h
      rfl
    | ok binaries =>
      rw [hfiles] at h
      cases h
  · next hdirectory =>
    rw [if_neg hdirectory]
    split at h
    · cases h
    · next hfile =>
      obtain rfl := Except.error.inj h
      rw [if_neg hfile]

theorem exists_cause_of_loadOutput (h : loadOutput tree output = .error error) :
    ∃ cause, Artifact.Corpus.load tree output = .error cause ∧ error = .artifacts output cause := by
  rw [loadOutput] at h
  split at h
  · cases hload : Artifact.Corpus.load tree output with
    | error cause =>
      rw [hload] at h
      exact ⟨cause, rfl, (Except.error.inj h).symm⟩
    | ok corpus =>
      rw [hload] at h
      cases h
  · cases h

/-- **A search that fails has done nothing, or cannot read what its batch left.** -/
theorem run_of_result_eq_error
    (h : (search.run target description output world).1.result = .error error) :
    search.run target description output world = (⟨[], [], .error error⟩, world) ∨
      ∃ batch after cause, checkOutput world.files output = .ok () ∧
        Batch.decompileTarget search.decompiler target output world = (.ok batch, after) ∧
        (Artifact.Corpus.load after.files output = .error cause ∧
          error = .artifacts output cause) ∧
        search.run target description output world =
          (⟨batch.progress, [], .error error⟩, after) := by
  rw [run] at h ⊢
  cases hcheck : checkOutput world.files output with
  | error refusal =>
    rw [hcheck] at h
    obtain rfl := Except.error.inj h
    exact .inl rfl
  | ok _ =>
    rw [hcheck] at h
    rcases hbatch : Batch.decompileTarget search.decompiler target output world with
      ⟨outcome, after⟩
    simp only [hbatch] at h ⊢
    cases outcome with
    | error failure =>
      obtain rfl := Except.error.inj h
      rw [decompileTarget_of_error (congrArg Prod.fst hbatch), Prod.mk.injEq] at hbatch
      exact .inl (by rw [hbatch.2])
    | ok batch =>
      simp only [scoreOutput] at h ⊢
      cases hload : loadOutput after.files output with
      | ok corpus =>
        rw [hload] at h
        cases h
      | error refusal =>
        rw [hload] at h
        obtain rfl := Except.error.inj h
        obtain ⟨cause, hcorpus, hcause⟩ := exists_cause_of_loadOutput hload
        exact .inr ⟨batch, after, cause, trivial, rfl, ⟨hcorpus, hcause⟩, rfl⟩

end FunctionSearch.Search
