import FunctionSearch.Proofs.Decompiler.Schedule
import FunctionSearch.Proofs.Decompiler.Stages
import Mathlib.Algebra.Order.BigOperators.Group.List
import Mathlib.Algebra.Order.Group.Nat

/-!
# Workers that share an output directory

A pool in which every worker drives the analyzer step by step behaves like one whose decompiler
knows the results beforehand, if no binary's artifacts pass for those of another one (`Apart`).

* `Steady` says how the stages and the tree fit together: every decompilation has found out what it
  should, and the tree holds the artifacts of the runs that were made. Every step keeps it
  (`Steady.next`).
* `Pool.timeless` leaves out of a pool how long things took. What remains of a step is a step of the
  pool with the known results, or nothing (`next_or_eq`).
* `not_forall_next`, `exists_reaches_stuck` and `finished_of_stuck`: no run goes on for ever, and
  where one stops, nothing is missing.
-/

namespace FunctionSearch

/-! ## Reports without times -/

/-- An outcome without the time that it took. -/
def BinaryOutcome.timeless : BinaryOutcome → BinaryOutcome
  | .decompiled report => .decompiled report.timeless
  | outcome => outcome

/-- A report without the time that it took. -/
def BinaryReport.timeless (report : BinaryReport) : BinaryReport :=
  { report with outcome := report.outcome.timeless }

namespace Batch

open FileTree Headless

theorem timeless_outcomeOf (result : Except DecompileError DecompileReport) :
    (outcomeOf result).timeless = outcomeOf (result.map DecompileReport.timeless) := by
  cases result <;> rfl

def Delivery.timeless (delivery : Delivery) : Delivery :=
  { delivery with report := delivery.report.timeless }

def Step.timeless (step : Step) : Step :=
  { step with report := step.report.timeless }

def Worker.timeless : Worker → Worker
  | .reporting delivery => .reporting delivery.timeless
  | worker => worker

variable {σ : Type}

/-- A pool without the times that things took, in a world that does not change. -/
def Pool.timeless (world : World σ) (pool : Pool σ) : Pool σ where
  queue := pool.queue
  workers := pool.workers.map Worker.timeless
  results := pool.results.map Delivery.timeless
  slots := pool.slots.map (Option.map BinaryReport.timeless)
  completed := pool.completed
  progress := pool.progress.map Step.timeless
  calls := pool.calls
  world := world

/-- A decompiler that knows what every binary comes to by its own run. -/
def oracle (setting : Setting σ) : Decompiler σ where
  name := "oracle"
  decompile binary _ world := (setting.ownResult binary, world)

/-! ## The start -/

theorem timeless_of_mem_assignFrom {tree : FileTree} {seen : List (String × Path)}
    {binaries : List Path} {binary : Path} {outcome : BinaryOutcome}
    (h : (binary, some outcome) ∈ assignFrom tree seen binaries) : outcome.timeless = outcome := by
  induction binaries generalizing seen with
  | nil => cases h
  | cons first rest ih =>
    rw [assignFrom] at h
    split at h
    · rw [List.mem_cons] at h
      obtain heq | hmem := h
      · cases heq
        rfl
      · exact ih hmem
    · dsimp only at h
      split at h
      · rw [List.mem_cons] at h
        obtain heq | hmem := h
        · cases heq
          rfl
        · exact ih hmem
      · rw [List.mem_cons] at h
        obtain heq | hmem := h
        · cases heq
        · exact ih hmem

/-- What is known beforehand took no time. -/
theorem timeless_of_mem_slotsOf {tree : FileTree} {binaries : List Path} {report : BinaryReport}
    (h : some report ∈ Pool.slotsOf (assign tree binaries)) : report.timeless = report := by
  obtain ⟨⟨binary, outcome⟩, hmem, hslot⟩ := List.mem_map.mp h
  obtain ⟨known, rfl, rfl⟩ := Option.map_eq_some_iff.mp hslot
  have hknown : known.timeless = known := timeless_of_mem_assignFrom hmem
  rw [BinaryReport.timeless, hknown]

theorem timeless_start (workers : Nat) (binaries : List Path) (world : World σ) :
    (Pool.start workers binaries world).timeless world = Pool.start workers binaries world := by
  have hslots : (Pool.slotsOf (assign world.files binaries)).map
      (Option.map BinaryReport.timeless) = Pool.slotsOf (assign world.files binaries) := by
    refine (List.map_congr_left fun slot hslot => ?_).trans (List.map_id _)
    cases slot with
    | none => rfl
    | some report => exact congrArg some (timeless_of_mem_slotsOf hslot)
  have hknown : ∀ item ∈ ((Pool.slotsOf (assign world.files binaries)).filterMap id).zipIdx 1,
      item.1.timeless = item.1 := by
    intro item hitem
    obtain ⟨slot, hslot, hsome⟩ := List.mem_filterMap.mp (List.fst_mem_of_mem_zipIdx hitem)
    obtain rfl : slot = some item.1 := hsome
    exact timeless_of_mem_slotsOf hslot
  have hprogress : (Pool.start workers binaries world).progress.map Step.timeless =
      (Pool.start workers binaries world).progress := by
    rw [Pool.start, List.map_map]
    refine List.map_congr_left fun item hitem => ?_
    exact congrArg (Step.mk item.2 binaries.length) (hknown item hitem)
  rw [Pool.timeless, hprogress]
  simp only [Pool.start, hslots, List.map_replicate, List.map_nil]
  rfl

/-! ## Steps -/

/-- A step in which no binary is decompiled is one without the times as well, for any decompiler. -/
theorem Pool.Next.timeless {decompiler : Decompiler σ} {output : Path} {pool pool' : Pool σ}
    (hnext : Pool.Next decompiler output pool pool') (hcalls : pool'.calls = pool.calls)
    (decompiler' : Decompiler σ) (world : World σ) :
    pool'.world = pool.world ∧
      Pool.Next decompiler' output (pool.timeless world) (pool'.timeless world) := by
  cases hnext with
  | @take before after job queue hworkers hqueue =>
    refine ⟨rfl, ?_⟩
    simp only [Pool.timeless, List.map_append, List.map_cons]
    exact .take (by simp [hworkers, Worker.timeless]) hqueue
  | decompile hworkers => simp at hcalls
  | @send before after delivery hworkers =>
    refine ⟨rfl, ?_⟩
    simp only [Pool.timeless, List.map_append, List.map_cons, List.map_nil]
    exact .send (by simp [hworkers, Worker.timeless])
  | leave hworkers hqueue =>
    refine ⟨rfl, ?_⟩
    simp only [Pool.timeless, List.map_append, List.map_cons]
    exact .leave (by simp [hworkers, Worker.timeless]) hqueue
  | @receive delivery results hresults =>
    refine ⟨rfl, ?_⟩
    have hresults' : (pool.timeless world).results =
        delivery.timeless :: results.map Delivery.timeless := by
      simp [Pool.timeless, hresults]
    have hreceive : Pool.Next decompiler' output (pool.timeless world) _ := .receive hresults'
    simpa [Pool.timeless, Step.timeless, Delivery.timeless, List.map_set] using hreceive

namespace Drive

section Step

variable {setting : Setting σ} {jobs : List Job} {drive drive' : Drive σ}

/-- The locations that the runs made so far wrote to. -/
def Written (setting : Setting σ) (jobs : List Job) (stages : Nat → Stage) (location : Location) :
    Prop :=
  ∃ job ∈ jobs, (stages job.place).HasRun ∧ setting.Writes job.binary location

/-- No artifact of a job passes for one of another job. -/
def Apart (setting : Setting σ) (jobs : List Job) : Prop :=
  ∀ job ∈ jobs, ∀ other ∈ jobs, other ≠ job →
    ∀ name ∈ (setting.specimens other.binary).artifacts other.binary,
      Artifact.belongsTo job.binary.fileNameText name = false

/-- How the stages and the tree fit together. -/
structure Steady (setting : Setting σ) (jobs : List Job) (drive : Drive σ) : Prop where
  fits : ∀ job ∈ jobs, (drive.stages job.place).Fits setting job.binary
  grows : Grows setting.tree (Written setting jobs drive.stages) drive.pool.world.files

/-- What others than a job wrote. -/
def WrittenByOthers (setting : Setting σ) (jobs : List Job) (stages : Nat → Stage) (job : Job)
    (location : Location) : Prop :=
  ∃ other ∈ jobs, other ≠ job ∧ (stages other.place).HasRun ∧
    setting.Writes other.binary location

theorem written_iff {stages : Nat → Stage} {job : Job} (hjob : job ∈ jobs)
    (location : Location) :
    Written setting jobs stages location ↔
      WrittenByOthers setting jobs stages job location ∨
        (stages job.place).HasRun ∧ setting.Writes job.binary location := by
  constructor
  · rintro ⟨other, hother, hrun, hwrites⟩
    by_cases heq : other = job
    · exact .inr (heq ▸ ⟨hrun, hwrites⟩)
    · exact .inl ⟨other, hother, heq, hrun, hwrites⟩
  · rintro (⟨other, hother, -, hrun, hwrites⟩ | ⟨hrun, hwrites⟩)
    · exact ⟨other, hother, hrun, hwrites⟩
    · exact ⟨job, hjob, hrun, hwrites⟩

theorem foreign_writtenByOthers (hapart : Apart setting jobs) {stages : Nat → Stage} {job : Job}
    (hjob : job ∈ jobs) :
    Stage.Foreign setting (jobs.map Job.binary) job.binary
      (WrittenByOthers setting jobs stages job) where
  written := by
    rintro location ⟨other, hother, -, -, hwrites⟩
    exact ⟨other.binary, List.mem_map_of_mem hother, hwrites⟩
  foreign := by
    rintro name ⟨other, hother, hne, -, hwrites⟩
    exact hapart job hjob other hother hne name
      (Setting.mem_artifacts (Setting.writes_child_iff.mp hwrites))

variable (hvalid : setting.Valid (jobs.map Job.binary)) (hapart : Apart setting jobs)
  (hplaces : (jobs.map Job.place).Nodup)

include hvalid hapart hplaces

/-- **A step of one decompilation leaves those of the others as they are.** -/
theorem Steady.advance (h : Steady setting jobs drive) {job : Job} (hjob : job ∈ jobs) :
    Steady setting jobs
      (drive.record job.place
        (setting.analyzer.advance setting.launcher job.binary setting.output
          (drive.stages job.place) drive.pool.world)) := by
  obtain ⟨hfits, hgrows⟩ := Stage.fits_advance hvalid (List.mem_map_of_mem hjob)
    (foreign_writtenByOthers hapart hjob) (h.fits job hjob) (h.grows.congr (written_iff hjob))
  have hother : ∀ other ∈ jobs, other ≠ job → other.place ≠ job.place :=
    fun other hmem hne heq => hne (List.inj_on_of_nodup_map hplaces hmem hjob heq)
  constructor
  · intro other hmem
    by_cases heq : other = job
    · subst heq
      simp only [record, if_true]
      exact hfits
    · simp only [record, if_neg (hother other hmem heq)]
      exact h.fits other hmem
  · refine hgrows.congr fun location => ?_
    rw [written_iff hjob]
    refine or_congr (exists_congr fun other => and_congr_right fun hmem =>
      and_congr_right fun hne => ?_) ?_
    · simp only [record, if_neg (hother other hmem hne)]
    · simp only [record, if_true]

/-- **Every step keeps the stages and the tree together.** -/
theorem Steady.next (h : Steady setting jobs drive)
    (hheld : ∀ job, .working job ∈ drive.pool.workers → job ∈ jobs)
    (hnext : Next setting.analyzer setting.launcher setting.output drive drive') :
    Steady setting jobs drive' := by
  cases hnext with
  | advance hworker _ => exact h.advance hvalid hapart hplaces (hheld _ hworker)
  | deliver hworkers hstage => exact ⟨h.fits, h.grows⟩
  | other hnext hcalls =>
    have hworld := (hnext.timeless hcalls (oracle setting) drive.pool.world).1
    exact ⟨h.fits, hworld ▸ h.grows⟩

omit hvalid hapart hplaces in
/-- **Without the times, a step is one of a pool that knows the results**, or nothing. -/
theorem next_or_eq (h : Steady setting jobs drive)
    (hheld : ∀ job, .working job ∈ drive.pool.workers → job ∈ jobs)
    (hnext : Next setting.analyzer setting.launcher setting.output drive drive')
    (world : World σ) :
    drive'.pool.timeless world = drive.pool.timeless world ∨
      Pool.Next (oracle setting) setting.output (drive.pool.timeless world)
        (drive'.pool.timeless world) := by
  cases hnext with
  | advance _ _ => exact .inl rfl
  | @deliver before after job result hworkers hstage =>
    right
    have hjob : job ∈ jobs := hheld job (by simp [hworkers])
    have hfits := h.fits job hjob
    rw [hstage] at hfits
    cases hfits with
    | done hresult =>
      have hreport : BinaryReport.timeless ⟨job.binary, outcomeOf result⟩ =
          (decompileOne (oracle setting) setting.output job.binary world).1 := by
        rw [BinaryReport.timeless, timeless_outcomeOf, hresult]
        rfl
      have hworkers' : (drive.pool.timeless world).workers =
          before.map Worker.timeless ++ .working job :: after.map Worker.timeless := by
        simp [Pool.timeless, hworkers, Worker.timeless]
      have hdecompile : Pool.Next (oracle setting) setting.output (drive.pool.timeless world) _ :=
        .decompile hworkers'
      simp only [Pool.timeless, List.map_append, List.map_cons, Worker.timeless,
        Delivery.timeless, hreport] at hdecompile ⊢
      exact hdecompile
  | other hnext hcalls => exact .inr (hnext.timeless hcalls (oracle setting) world).2

end Step

/-! ## Runs -/

/-- One pool after any number of steps of another one. -/
abbrev Reaches (setting : Setting σ) : Drive σ → Drive σ → Prop :=
  Relation.ReflTransGen (Next setting.analyzer setting.launcher setting.output)

/-- A pool in which no step is left. -/
def Stuck (setting : Setting σ) (drive : Drive σ) : Prop :=
  ∀ drive', ¬ Next setting.analyzer setting.launcher setting.output drive drive'

section Runs

variable {setting : Setting σ} {workers : Nat} {binaries : List Path}
  {drive drive' : Drive σ}

/-- What holds of every pool that work comes to. -/
structure Kept (setting : Setting σ) (binaries : List Path) (drive : Drive σ) : Prop where
  steady : Steady setting (Pool.jobsOf (assign setting.tree binaries)) drive
  sound : Pool.Sound setting.ownResult (expectedOf setting.ownResult (assign setting.tree binaries))
    (Pool.jobsOf (assign setting.tree binaries)) (drive.pool.timeless setting.world)

theorem Kept.mem_jobs (h : Kept setting binaries drive) {job : Job}
    (hworker : .working job ∈ drive.pool.workers) :
    job ∈ Pool.jobsOf (assign setting.tree binaries) := by
  refine h.sound.called.subset ?_
  rw [List.mem_append, List.mem_append]
  refine .inr (.inr (List.mem_filterMap.mpr ⟨.working job, ?_, rfl⟩))
  exact List.mem_map.mpr ⟨.working job, hworker, rfl⟩

variable (hvalid : setting.Valid ((Pool.jobsOf (assign setting.tree binaries)).map Job.binary))

include hvalid

theorem kept_start :
    Kept setting binaries (Drive.start workers binaries setting.world) where
  steady :=
    { fits := fun _ _ => .begun
      grows := hvalid.wellFormed.grows.congr fun location => by
        simp [Written, Drive.start, Stage.HasRun] }
  sound := by
    rw [Drive.start, timeless_start]
    exact sound_start workers binaries setting.world

variable (hapart : Apart setting (Pool.jobsOf (assign setting.tree binaries)))

include hapart

theorem Kept.next (h : Kept setting binaries drive)
    (hnext : Next setting.analyzer setting.launcher setting.output drive drive') :
    Kept setting binaries drive' where
  steady := h.steady.next hvalid hapart nodup_map_place_jobsOf (fun _ => h.mem_jobs) hnext
  sound := by
    obtain heq | hstep := next_or_eq h.steady (fun _ => h.mem_jobs) hnext setting.world
    · exact heq ▸ h.sound
    · exact h.sound.next (fun _ _ => rfl) hstep

theorem Kept.of_reaches (h : Kept setting binaries drive)
    (hreaches : Reaches setting drive drive') :
    Kept setting binaries drive' := by
  induction hreaches with
  | refl => exact h
  | tail _ hnext ih => exact ih.next hvalid hapart hnext

theorem kept_of_reaches
    (h : Reaches setting (Drive.start workers binaries setting.world) drive) :
    Kept setting binaries drive :=
  (kept_start hvalid).of_reaches hvalid hapart h

omit hvalid hapart

/-! ### Runs come to an end -/

/-- A bound of the number of steps that are left. -/
def work (drive : Drive σ) : Nat :=
  drive.pool.work +
    ((List.range drive.pool.slots.length).map fun i => (drive.stages i).left).sum

theorem Kept.length_slots (h : Kept setting binaries drive) :
    drive.pool.slots.length =
      (expectedOf setting.ownResult (assign setting.tree binaries)).length := by
  have hlength := h.sound.length_slots
  rwa [Pool.timeless, List.length_map] at hlength

/-- A job that a worker has in hand has a slot. -/
theorem Kept.place_lt (h : Kept setting binaries drive) {job : Job}
    (hworker : .working job ∈ drive.pool.workers) : job.place < drive.pool.slots.length := by
  rw [h.length_slots]
  exact (List.getElem?_eq_some_iff.mp (getElem?_expectedOf_of_job (h.mem_jobs hworker))).1

/-- **Every step leaves less to do.** -/
theorem Kept.work_lt (h : Kept setting binaries drive)
    (h' : Kept setting binaries drive')
    (hnext : Next setting.analyzer setting.launcher setting.output drive drive') :
    drive'.work < drive.work := by
  have hlength : drive'.pool.slots.length = drive.pool.slots.length :=
    h'.length_slots.trans h.length_slots.symm
  rw [work, work, hlength]
  cases hnext with
  | @advance job hworker hstage =>
    have hless := Stage.left_advance_lt setting.analyzer setting.launcher job.binary setting.output
      drive.pool.world hstage
    refine Nat.add_lt_add_left (List.sum_lt_sum _ _ (fun i _ => ?_) ?_) drive.pool.work
    · simp only [record]
      split
      next heq => exact heq ▸ hless.le
      next => exact Nat.le_refl _
    · refine ⟨job.place, List.mem_range.mpr (h.place_lt hworker), ?_⟩
      simp only [record, if_true]
      exact hless
  | deliver hworkers hstage =>
    refine Nat.add_lt_add_right ?_ _
    simp only [Pool.work, Pool.workOf, hworkers, List.map_append, List.map_cons, List.sum_append,
      List.sum_cons]
    omega
  | other hnext hcalls => exact Nat.add_lt_add_right (Pool.work_lt hnext) _

include hvalid hapart

/-- **No run goes on for ever.** -/
theorem not_forall_next {run : Nat → Drive σ}
    (hstart : run 0 = Drive.start workers binaries setting.world) :
    ¬ ∀ n, Next setting.analyzer setting.launcher setting.output (run n) (run (n + 1)) := by
  intro h
  have hkept : ∀ n, Kept setting binaries (run n) := by
    intro n
    induction n with
    | zero => exact hstart ▸ kept_start hvalid
    | succ n ih => exact ih.next hvalid hapart (h n)
  obtain ⟨n, hn⟩ := WellFounded.not_rel_apply_succ (r := (· < ·)) fun n => (run n).work
  exact hn ((hkept n).work_lt (hkept (n + 1)) (h n))

/-- Some run comes to an end. -/
theorem Kept.exists_reaches_stuck (h : Kept setting binaries drive) :
    ∃ final, Reaches setting drive final ∧ Stuck setting final := by
  obtain ⟨final, hreaches, hleast⟩ := (measure work).wf.has_min
    {final : Drive σ | Reaches setting drive final} ⟨drive, .refl⟩
  refine ⟨final, hreaches, fun drive' hnext => ?_⟩
  have hfinal := h.of_reaches hvalid hapart hreaches
  exact hleast drive' (hreaches.tail hnext)
    (hfinal.work_lt (hfinal.next hvalid hapart hnext) hnext)

omit hvalid hapart

/-! ### Where a run stops -/

/-- Whatever the pool can do but decompile, the workers can do as well, and they can go on with what
they decompile. -/
theorem exists_next {pool : Pool σ}
    (hnext : Pool.Next (setting.analyzer.decompiler setting.launcher) setting.output drive.pool
      pool) :
    ∃ drive', Next setting.analyzer setting.launcher setting.output drive drive' := by
  cases hnext with
  | take hworkers hqueue => exact ⟨_, .other (.take hworkers hqueue) rfl⟩
  | @decompile before after job hworkers =>
    by_cases hdone : ∃ result, drive.stages job.place = .done result
    · obtain ⟨result, hstage⟩ := hdone
      exact ⟨_, .deliver hworkers hstage⟩
    · exact ⟨_, .advance (by simp [hworkers]) (not_exists.mp hdone)⟩
  | send hworkers => exact ⟨_, .other (.send hworkers) rfl⟩
  | leave hworkers hqueue => exact ⟨_, .other (.leave hworkers hqueue) rfl⟩
  | receive hresults => exact ⟨_, .other (.receive hresults) rfl⟩

/-- Where no worker can go on, no step is left without the times either. -/
theorem Stuck.timeless (h : Stuck setting drive) (pool : Pool σ) :
    ¬ Pool.Next (oracle setting) setting.output (drive.pool.timeless setting.world) pool := by
  have hgone : ∀ worker ∈ (drive.pool.timeless setting.world).workers, worker = .gone := by
    intro worker hmem
    obtain ⟨worker, hworker, rfl⟩ := List.mem_map.mp hmem
    by_contra hstay
    have hstay' : worker ≠ .gone := by
      rintro rfl
      exact hstay rfl
    obtain ⟨pool', hnext⟩ : ∃ pool', Pool.Next (setting.analyzer.decompiler setting.launcher)
        setting.output drive.pool pool' := Pool.exists_next hworker hstay'
    obtain ⟨drive', hnext⟩ := exists_next hnext
    exact h drive' hnext
  have hresults : drive.pool.results = [] := by
    cases hresults : drive.pool.results with
    | nil => rfl
    | cons delivery results =>
      have hreceive : Pool.Next (setting.analyzer.decompiler setting.launcher) setting.output
          drive.pool _ := .receive hresults
      obtain ⟨drive', hnext⟩ := exists_next hreceive
      exact absurd hnext (h drive')
  have hnone : ∀ {before after : List Worker} {worker : Worker},
      (drive.pool.timeless setting.world).workers = before ++ worker :: after → worker = .gone :=
    fun hworkers => hgone _ (by rw [hworkers]; exact List.mem_append_cons_self)
  intro hnext
  cases hnext with
  | take hworkers _ => cases hnone hworkers
  | decompile hworkers => cases hnone hworkers
  | send hworkers => cases hnone hworkers
  | leave hworkers _ => cases hnone hworkers
  | receive hresults' =>
    rw [Pool.timeless, hresults] at hresults'
    cases hresults'

theorem timeless_reportOf (slot : Option BinaryReport) (binary : Path) :
    (Pool.reportOf slot binary).timeless =
      Pool.reportOf (slot.map BinaryReport.timeless) binary := by
  cases slot <;> rfl

/-- **Where a run stops, every binary is reported in its place with what its own run came to.** -/
theorem Kept.report (h : Kept setting binaries drive) (hstuck : Stuck setting drive) :
    (drive.pool.report binaries).binaries.map BinaryReport.timeless =
      expectedOf setting.ownResult (assign setting.tree binaries) := by
  have hfinished := h.sound.finished hstuck.timeless
  refine Eq.trans ?_ (congrArg BatchReport.binaries (report_of_finished hfinished))
  simp only [Pool.report, Pool.timeless, List.map_zipWith, List.zipWith_map_left,
    timeless_reportOf]

end Runs

end Drive

end Batch

end FunctionSearch
