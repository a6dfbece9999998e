import FunctionSearch.Proofs.Decompiler.Batch
import FunctionSearch.Proofs.Decompiler.Recording
import Mathlib.Data.List.Nodup
import Mathlib.Data.List.Range

/-!
# Every schedule gives the same report

The steps of a pool may come in any order. The pool in which work starts is sound (`sound_start`),
so every pool that can be reached from it is (`sound_of_reaches`), and where no step is left it has
come to the report of the sequential batch.

* `Complete` says what a batch has come to at its end.
* `complete_of_every_schedule`: no run goes on for ever, and every run that stops is complete,
  whatever the number of workers and the order of steps. The report on a folder does not depend on
  the order of its listing either.
-/

namespace FunctionSearch.Batch

open Pool

variable {σ : Type} {decompiler : Decompiler σ} {output : Path}
  {result : Path → Except DecompileError DecompileReport}

/-! ## The start -/

section Start

variable {items : List (Path × Option BinaryOutcome)}

theorem mem_jobsOf {job : Job} :
    job ∈ jobsOf items ↔ items[job.place]? = some (job.binary, none) := by
  simp only [jobsOf, List.mem_filterMap, Prod.exists]
  constructor
  · rintro ⟨binary, outcome, place, hmem, hjob⟩
    rw [List.mem_zipIdx_iff_getElem?] at hmem
    cases outcome with
    | none =>
      obtain rfl := Option.some.inj hjob
      exact hmem
    | some _ => cases hjob
  · intro h
    exact ⟨job.binary, none, job.place, List.mem_zipIdx_iff_getElem?.mpr h, rfl⟩

theorem map_filterMap_sublist {α β γ : Type} {f : α → Option β} {g : β → γ} {k : α → γ}
    (h : ∀ a b, f a = some b → g b = k a) (l : List α) :
    ((l.filterMap f).map g).Sublist (l.map k) := by
  induction l with
  | nil => exact List.Sublist.refl []
  | cons a l ih =>
    rw [List.map_cons]
    cases hf : f a with
    | none => exact (List.filterMap_cons_none hf ▸ ih).cons (k a)
    | some b =>
      rw [List.filterMap_cons_some hf, List.map_cons, h a b hf]
      exact ih.cons_cons (k a)

/-- No two jobs have the same place. -/
theorem nodup_map_place_jobsOf : ((jobsOf items).map Job.place).Nodup := by
  have hsublist : ((jobsOf items).map Job.place).Sublist (items.zipIdx.map Prod.snd) := by
    refine map_filterMap_sublist ?_ _
    rintro ⟨⟨binary, outcome⟩, place⟩ job hjob
    cases outcome with
    | none =>
      obtain rfl := Option.some.inj hjob
      rfl
    | some _ => cases hjob
  rw [List.zipIdx_map_snd] at hsublist
  exact hsublist.nodup List.nodup_range'

/-- A slot is empty at the start if and only if there is a job for its place. -/
theorem getElem?_slotsOf_eq_none_iff {i : Nat} :
    (slotsOf items)[i]? = some none ↔ i ∈ (jobsOf items).map Job.place := by
  rw [slotsOf, List.getElem?_map, Option.map_eq_some_iff, List.mem_map]
  constructor
  · rintro ⟨⟨binary, outcome⟩, hitem, hslot⟩
    obtain rfl := Option.map_eq_none_iff.mp hslot
    exact ⟨⟨i, binary⟩, mem_jobsOf.mpr hitem, rfl⟩
  · rintro ⟨job, hjob, rfl⟩
    exact ⟨_, mem_jobsOf.mp hjob, rfl⟩

theorem getElem?_expectedOf_of_slotsOf {i : Nat} {report : BinaryReport}
    (h : (slotsOf items)[i]? = some (some report)) :
    (expectedOf result items)[i]? = some report := by
  rw [slotsOf, List.getElem?_map, Option.map_eq_some_iff] at h
  obtain ⟨⟨binary, outcome⟩, hitem, hslot⟩ := h
  obtain ⟨known, rfl, rfl⟩ := Option.map_eq_some_iff.mp hslot
  rw [expectedOf, List.getElem?_map, hitem]
  rfl

theorem getElem?_expectedOf_of_job {job : Job} (h : job ∈ jobsOf items) :
    (expectedOf result items)[job.place]? = some (reportBy result job.binary) := by
  rw [expectedOf, List.getElem?_map, mem_jobsOf.mp h]
  rfl

/-- **The pool in which work starts is staffed.** -/
theorem staffed_start (workers : Nat) (binaries : List Path) (world : World σ) :
    Staffed (jobsOf (assign world.files binaries)) (start workers binaries world) where
  called := by
    simp only [start, List.filterMap_replicate_of_none Worker.job?_ready, List.append_nil,
      List.nil_append]
    exact List.Perm.refl _
  attended := by
    cases hjobs : jobsOf (assign world.files binaries) with
    | nil => exact .inl hjobs
    | cons job jobs =>
      refine .inr ⟨?_, fun worker hworker => ?_⟩
      · simp [start, hjobs]
      · rw [List.eq_of_mem_replicate hworker]
        simp

/-- **The pool in which work starts is sound.** -/
theorem sound_start (workers : Nat) (binaries : List Path) (world : World σ) :
    Sound result (expectedOf result (assign world.files binaries))
      (jobsOf (assign world.files binaries)) (start workers binaries world) := by
  refine
    { length_slots := by simp [start, slotsOf, expectedOf]
      filled := fun i report h => getElem?_expectedOf_of_slotsOf h
      pending := fun i => ?_
      queued := fun job hjob => getElem?_expectedOf_of_job hjob
      held := fun worker hworker => (List.eq_of_mem_replicate hworker) ▸ .ready
      sent := fun delivery hdelivery => absurd hdelivery List.not_mem_nil
      toStaffed := staffed_start workers binaries world
      counted := by simp [start]
      numbered := ?_
      totalled := ?_
      shown := ?_ }
  · rw [Pool.pending]
    simp only [start, List.filterMap_replicate_of_none Worker.place?_ready, List.append_nil,
      List.map_nil]
    rw [nodup_map_place_jobsOf.count]
    simp only [getElem?_slotsOf_eq_none_iff]
  · simp only [start, List.map_map, List.length_map, List.length_zipIdx]
    exact List.zipIdx_map_snd 1 _
  · rw [start, List.forall_mem_map]
    intro _ _
    rw [expectedOf, List.length_map, length_assign]
  · simp only [start, List.map_map]
    exact (List.zipIdx_map_fst 1 _).symm ▸ List.Perm.refl _

end Start

/-! ## Runs -/

theorem sound_of_reaches (hresult : ∀ binary world,
    (decompiler.decompile binary output world).1 = result binary) {workers : Nat}
    {binaries : List Path} {world : World σ} {pool : Pool σ}
    (h : Reaches decompiler output (start workers binaries world) pool) :
    Sound result (expectedOf result (assign world.files binaries))
      (jobsOf (assign world.files binaries)) pool := by
  induction h with
  | refl => exact sound_start workers binaries world
  | tail _ hnext ih => exact ih.next hresult hnext

/-- Some run comes to an end. -/
theorem exists_reaches_stuck (pool : Pool σ) :
    ∃ final, Reaches decompiler output pool final ∧ Stuck decompiler output final := by
  -- Of all pools that this one can come to, take one with the least work left.
  obtain ⟨final, hreaches, hleast⟩ := (measure work).wf.has_min
    {final : Pool σ | Reaches decompiler output pool final} ⟨pool, .refl⟩
  exact ⟨final, hreaches, fun pool' hnext => hleast pool' (hreaches.tail hnext) (work_lt hnext)⟩

theorem stuck_of_left {pool : Pool σ} (hgone : ∀ worker ∈ pool.workers, worker = .gone)
    (hresults : pool.results = []) : Stuck decompiler output pool := by
  have hnone : ∀ {before after : List Worker} {worker : Worker},
      pool.workers = before ++ worker :: after → worker = .gone :=
    fun hworkers => hgone _ (by rw [hworkers]; exact List.mem_append_cons_self)
  intro pool' hnext
  cases hnext with
  | take hworkers _ => cases hnone hworkers
  | decompile hworkers => cases hnone hworkers
  | send hworkers => cases hnone hworkers
  | leave hworkers _ => cases hnone hworkers
  | receive hresults' =>
    rw [hresults] at hresults'
    cases hresults'

/-- What a batch has come to when all is done. -/
structure Complete (decompiler : Decompiler σ) (output : Path) (binaries : List Path)
    (world : World σ) (pool : Pool σ) : Prop where
  /-- No job, no worker and no report is left. -/
  left : pool.queue = [] ∧ (∀ worker ∈ pool.workers, worker = .gone) ∧ pool.results = []
  /-- The report is the one of the sequential batch. -/
  sequential : pool.report binaries = (decompileAll decompiler binaries output world).1.report
  /-- Every binary is reported in its place. -/
  named : (pool.report binaries).binaries.map BinaryReport.binary = binaries
  /-- The outcomes are those known beforehand, and else what the decompiler always answers. -/
  outcomes : List.Forall₂
    (Reported fun binary answer => ∀ world, (decompiler.decompile binary output world).1 = answer)
    (assign world.files binaries) (pool.report binaries).binaries
  /-- Every slot was filled by a report that came. -/
  filled : pool.slots = (pool.report binaries).binaries.map some
  /-- The decompiler was called once for every job. -/
  called : pool.calls.Perm (jobsOf (assign world.files binaries)) ∧
    (pool.calls.map Job.place).Nodup
  /-- The steps that were shown are numbered from one to the number of binaries. -/
  numbered : pool.progress.map Step.completed = List.range' 1 binaries.length
  totalled : ∀ step ∈ pool.progress, step.total = binaries.length
  /-- Every report was shown once. -/
  shown : (pool.progress.map Step.report).Perm (pool.report binaries).binaries

/-- Nothing is made up for slots that are all filled. -/
theorem zipWith_reportOf_map_some {expected : List BinaryReport} {binaries : List Path}
    (h : expected.length = binaries.length) :
    List.zipWith reportOf (expected.map some) binaries = expected := by
  refine List.ext_getElem (by simp [h]) fun i _ _ => ?_
  rw [List.getElem_zipWith, List.getElem_map]
  rfl

/-- A pool in which nothing is left to do has come to the reports that were expected. -/
theorem report_of_finished {tree : FileTree} {binaries : List Path} {pool : Pool σ}
    (h : Finished (expectedOf result (assign tree binaries)) pool) :
    pool.report binaries = ⟨expectedOf result (assign tree binaries)⟩ := by
  have hlength : (expectedOf result (assign tree binaries)).length = binaries.length := by
    rw [expectedOf, List.length_map, length_assign]
  rw [Pool.report, h.slots, zipWith_reportOf_map_some hlength]

theorem complete_of_finished (hresult : ∀ binary world,
    (decompiler.decompile binary output world).1 = result binary) {binaries : List Path}
    {world : World σ} {pool : Pool σ}
    (hsound : Sound result (expectedOf result (assign world.files binaries))
      (jobsOf (assign world.files binaries)) pool)
    (h : Finished (expectedOf result (assign world.files binaries)) pool) :
    Complete decompiler output binaries world pool := by
  have hlength : (expectedOf result (assign world.files binaries)).length = binaries.length := by
    rw [expectedOf, List.length_map, length_assign]
  have hreport := report_of_finished h
  have hcalled : pool.calls.Perm (jobsOf (assign world.files binaries)) :=
    hsound.perm_calls h.queue h.workers
  have hshown : (pool.progress.map Step.report).Perm
      (expectedOf result (assign world.files binaries)) := by
    have hshown := hsound.shown
    rwa [h.slots, List.filterMap_map, Function.id_comp, List.filterMap_some] at hshown
  have hcount : pool.progress.length = binaries.length := by
    rw [← hlength, ← hshown.length_eq, List.length_map]
  exact
    { left := ⟨h.queue, h.workers, h.results⟩
      sequential := by rw [hreport, report_decompileAll hresult]
      named := by
        rw [hreport, expectedOf, List.map_map]
        exact map_fst_assign world.files binaries
      outcomes := hreport ▸ forall₂_reported_expectedOf hresult _
      filled := by rw [hreport, h.slots]
      called := ⟨hcalled, (hcalled.map Job.place).nodup_iff.mpr nodup_map_place_jobsOf⟩
      numbered := by rw [hsound.numbered, hcount]
      totalled := hlength ▸ hsound.totalled
      shown := by rw [hreport]; exact hshown }

/-- **Every schedule gives the same report.** No run of a pool goes on for ever, some run comes to
an end, and every run that does is complete, for every number of workers. The runs with a decompiler
that keeps what it is given are the same, and it has kept the binaries of the calls. The report on a
folder does not depend on the order of its listing. -/
theorem complete_of_every_schedule (hresult : ∀ binary world,
    (decompiler.decompile binary output world).1 = result binary) :
    (∀ (workers : Nat) (binaries : List Path) (world : World σ),
      (∀ run : Nat → Pool σ, run 0 = start workers binaries world →
        ¬ ∀ n, Next decompiler output (run n) (run (n + 1))) ∧
      (∃ pool, Reaches decompiler output (start workers binaries world) pool ∧
        Stuck decompiler output pool) ∧
      ∀ pool, Reaches decompiler output (start workers binaries world) pool →
        Stuck decompiler output pool →
        Complete decompiler output binaries world pool) ∧
    (∀ (workers : Nat) (binaries : List Path) (world : World σ) (recorded : Pool (σ × List Path)),
      Reaches decompiler.recording output (start workers binaries (world.keeping [])) recorded ↔
        ∃ pool, Reaches decompiler output (start workers binaries world) pool ∧
          recorded = pool.recorded) ∧
    ∀ (folder : Path) (world world' : World σ), FileTree.Reorders world.files world'.files →
      filesOf world.files folder = filesOf world'.files folder ∧
      (∀ binaries pool pool', Complete decompiler output binaries world pool →
        Complete decompiler output binaries world' pool' →
        pool.report binaries = pool'.report binaries) ∧
      (decompileFolder decompiler folder output world).1.map Run.report =
        (decompileFolder decompiler folder output world').1.map Run.report := by
  refine ⟨fun workers binaries world => ⟨fun run _ => not_forall_next run,
    exists_reaches_stuck _, fun pool hreaches hstuck => ?_⟩,
    fun _ _ _ _ => reaches_recording_iff, fun folder world world' h => ?_⟩
  · have hsound := sound_of_reaches hresult hreaches
    exact complete_of_finished hresult hsound (hsound.finished hstuck)
  · refine ⟨filesOf_eq h folder, fun binaries pool pool' hpool hpool' => ?_,
      report_decompileFolder_eq hresult h folder⟩
    rw [hpool.sequential, hpool'.sequential, report_decompileAll hresult,
      report_decompileAll hresult, assign_eq h]

/-- A decompiler that finds no function anywhere. -/
def refusing : Decompiler Unit where
  name := "refusing"
  decompile binary _ world := (.error (.noOutput binary.fileNameText), world)

/-- A world with these entries in the root. -/
def rootWorld (entries : List (String × Entry)) : World Unit where
  files := ⟨entries.map fun (name, entry) => ([Text.bytes name], entry), []⟩
  clock := ⟨0⟩
  outside := ()

/-- Three binaries of which two have the same content. -/
def threeBinaries : List (String × Entry) :=
  [("a", .file [1] false), ("b", .file [1] false), ("c", .file [2] false)]

/-- Three binaries, two workers, and the files the other way round. -/
theorem complete_of_every_schedule_refusing :
    (∀ binary world, (refusing.decompile binary (.ofString "out") world).1 =
      .error (.noOutput binary.fileNameText)) ∧
    FileTree.Reorders (rootWorld threeBinaries).files (rootWorld threeBinaries.reverse).files ∧
    (∀ pool, Reaches refusing (.ofString "out")
        (start 2 [.ofString "a", .ofString "b", .ofString "c"] (rootWorld threeBinaries)) pool →
      Stuck refusing (.ofString "out") pool →
      Complete refusing (.ofString "out") [.ofString "a", .ofString "b", .ofString "c"]
        (rootWorld threeBinaries) pool) ∧
    filesOf (rootWorld threeBinaries).files (.ofString "/") =
      filesOf (rootWorld threeBinaries.reverse).files (.ofString "/") := by
  have hresult : ∀ binary world, (refusing.decompile binary (.ofString "out") world).1 =
      .error (.noOutput binary.fileNameText) := fun _ _ => rfl
  have hreorders : FileTree.Reorders (rootWorld threeBinaries).files
      (rootWorld threeBinaries.reverse).files :=
    ⟨by decide +kernel, by decide +kernel, rfl⟩
  obtain ⟨hruns, -, hfolder⟩ := complete_of_every_schedule hresult
  exact ⟨hresult, hreorders, (hruns _ _ _).2.2, (hfolder _ _ _ hreorders).1⟩

end FunctionSearch.Batch
