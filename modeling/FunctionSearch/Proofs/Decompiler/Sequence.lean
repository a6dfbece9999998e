import FunctionSearch.Proofs.Decompiler.Drive
import FunctionSearch.Proofs.Decompiler.Once

/-!
# Decompilations in sequence

Workers that drive the analyzer step by step can do whatever a pool does that decompiles a binary in
one step: a worker finishes its binary before anyone else does anything (`reaches_decompile`).

* `Follows` relates a pool to the workers that are where it is, and have not begun with what it has
  not decompiled. They can follow every step of the pool (`Follows.next`), and so every run of it
  (`exists_follows_of_reaches`).
* `exists_reaches_decompileAll`: the sequential batch, which is what a pool with one worker comes
  to, is therefore what one of the schedules comes to.
-/

namespace FunctionSearch.Batch

open Headless

variable {σ : Type}

/-- What a worker has in hand was not decompiled before. -/
theorem Pool.Staffed.place_notMem_calls {jobs : List Job} {pool : Pool σ}
    (h : Pool.Staffed jobs pool) (hplaces : (jobs.map Job.place).Nodup) {job : Job}
    (hworker : .working job ∈ pool.workers) : job.place ∉ pool.calls.map Job.place := by
  intro hcalled
  have hnodup := (h.called.map Job.place).nodup_iff.mpr hplaces
  rw [List.map_append] at hnodup
  have hopen : job ∈ pool.queue ++ pool.workers.filterMap Worker.job? :=
    List.mem_append_right _ (List.mem_filterMap.mpr ⟨_, hworker, Worker.job?_working job⟩)
  exact List.disjoint_of_nodup_append hnodup hcalled (List.mem_map_of_mem hopen)

namespace Drive

variable {setting : Setting σ} {drive : Drive σ}

/-! ## One job -/

theorem record_record (drive : Drive σ) (place : Nat) (first second : Stage × World σ) :
    (drive.record place first).record place second = drive.record place second := by
  simp only [record, Drive.mk.injEq, true_and]
  funext i
  split <;> rfl

theorem record_self (drive : Drive σ) (place : Nat) :
    drive.record place (drive.stages place, drive.pool.world) = drive := by
  obtain ⟨pool, stages⟩ := drive
  simp only [record, Drive.mk.injEq, true_and]
  funext i
  split
  next h => rw [h]
  · rfl

/-- A worker can always come a stage further, or is done. -/
theorem reaches_record {job : Job} (hworker : .working job ∈ drive.pool.workers)
    (next : Stage × World σ) :
    Reaches setting (drive.record job.place next)
      (drive.record job.place
        (setting.analyzer.advance setting.launcher job.binary setting.output next.1 next.2)) := by
  have hstage : (drive.record job.place next).stages job.place = next.1 := if_pos rfl
  by_cases hdone : ∃ result, next.1 = .done result
  · obtain ⟨result, hresult⟩ := hdone
    rw [hresult, advance, ← hresult]
  · have hstep : Reaches setting (drive.record job.place next) _ :=
      .single (.advance hworker (hstage.symm ▸ not_exists.mp hdone))
    rwa [record_record, hstage] at hstep

/-- **A worker can finish a job before anyone else does anything.** -/
theorem reaches_decompile (setting : Setting σ) {before after : List Worker} {job : Job}
    (hworkers : drive.pool.workers = before ++ .working job :: after)
    (hstage : drive.stages job.place = .begun) :
    ∃ stages, (∀ i, i ≠ job.place → stages i = drive.stages i) ∧
      Reaches setting drive
        { pool := { drive.pool with
            workers := before ++ .reporting ⟨job.place,
              (decompileOne (setting.analyzer.decompiler setting.launcher) setting.output job.binary
                drive.pool.world).1⟩ :: after
            calls := drive.pool.calls ++ [job]
            world := (decompileOne (setting.analyzer.decompiler setting.launcher) setting.output
              job.binary drive.pool.world).2 }
          stages := stages } := by
  have hworker : .working job ∈ drive.pool.workers := by simp [hworkers]
  have hstart : drive.record job.place (.begun, drive.pool.world) = drive := by
    rw [← hstage, record_self]
  have hfirst : Reaches setting drive _ := hstart ▸ reaches_record hworker (.begun, _)
  have hthree := (hfirst.trans (reaches_record hworker _)).trans (reaches_record hworker _)
  rw [setting.analyzer.advance_begun setting.launcher job.binary setting.output] at hthree
  refine ⟨_, fun i hi => if_neg hi, hthree.tail (.deliver hworkers ?_)⟩
  exact if_pos rfl

/-! ## One step of a pool -/

/-- Workers that are where a pool is, and have not begun with what it has not decompiled. -/
structure Follows (pool : Pool σ) (drive : Drive σ) : Prop where
  pool_eq : drive.pool = pool
  begun : ∀ i ∉ pool.calls.map Job.place, drive.stages i = .begun

variable {jobs : List Job} {pool pool' : Pool σ}

theorem follows_start (workers : Nat) (binaries : List Path) (world : World σ) :
    Follows (Pool.start workers binaries world) (Drive.start workers binaries world) :=
  ⟨rfl, fun _ _ => rfl⟩

/-- **Workers can follow every step of a pool.** -/
theorem Follows.next (h : Follows pool drive) (hstaffed : Pool.Staffed jobs pool)
    (hplaces : (jobs.map Job.place).Nodup)
    (hnext : Pool.Next (setting.analyzer.decompiler setting.launcher) setting.output pool pool') :
    ∃ drive', Reaches setting drive drive' ∧ Follows pool' drive' := by
  obtain ⟨rfl, hbegun⟩ := h
  -- All steps but one are steps of the workers as they stand.
  have hother : pool'.calls = drive.pool.calls →
      ∃ drive', Reaches setting drive drive' ∧ Follows pool' drive' :=
    fun hcalls => ⟨_, .single (.other hnext hcalls), rfl, hcalls ▸ hbegun⟩
  cases hnext with
  | take _ _ => exact hother rfl
  | @decompile before after job hworkers =>
    have hworker : .working job ∈ drive.pool.workers := hworkers ▸ List.mem_append_cons_self
    obtain ⟨stages, hstages, hreaches⟩ := reaches_decompile setting hworkers
      (hbegun _ (hstaffed.place_notMem_calls hplaces hworker))
    refine ⟨_, hreaches, rfl, fun i hi => ?_⟩
    simp only [List.map_append, List.map_cons, List.map_nil, List.mem_append, List.mem_singleton,
      not_or] at hi
    exact (hstages i hi.2).trans (hbegun i hi.1)
  | send _ => exact hother rfl
  | leave _ _ => exact hother rfl
  | receive _ => exact hother rfl

/-! ## Runs of a pool -/

/-- **Whatever a pool comes to, workers can come to.** -/
theorem exists_follows_of_reaches {workers : Nat} {binaries : List Path}
    (h : Batch.Reaches (setting.analyzer.decompiler setting.launcher) setting.output
      (Pool.start workers binaries setting.world) pool) :
    ∃ drive, Reaches setting (Drive.start workers binaries setting.world) drive ∧
      Follows pool drive := by
  induction h with
  | refl => exact ⟨_, .refl, follows_start workers binaries setting.world⟩
  | tail hreaches hnext ih =>
    obtain ⟨between, hbetween, hfollows⟩ := ih
    obtain ⟨drive, hdrive, hfollows'⟩ := hfollows.next
      (Pool.orderly_of_reaches hreaches).toStaffed nodup_map_place_jobsOf hnext
    exact ⟨drive, hbetween.trans hdrive, hfollows'⟩

theorem stuck_of_left (hgone : ∀ worker ∈ drive.pool.workers, worker = .gone)
    (hresults : drive.pool.results = []) : Stuck setting drive := by
  intro drive' hnext
  cases hnext with
  | advance hworker _ => cases hgone _ hworker
  | deliver hworkers _ => cases hgone _ (by rw [hworkers]; exact List.mem_append_cons_self)
  | other hnext _ => exact Batch.stuck_of_left hgone hresults _ hnext

/-- **The sequential batch is what one of the schedules comes to.** -/
theorem exists_reaches_decompileAll (setting : Setting σ) (binaries : List Path) :
    ∃ drive, Reaches setting (Drive.start 1 binaries setting.world) drive ∧
      Stuck setting drive ∧
      drive.pool.report binaries =
        (decompileAll (setting.analyzer.decompiler setting.launcher) binaries setting.output
          setting.world).1.report := by
  obtain ⟨pool, hreaches, hstuck, hreport, -⟩ := exists_reaches_sequential
    (setting.analyzer.decompiler setting.launcher) setting.output binaries setting.world
  obtain ⟨drive, hdrive, hfollows⟩ := exists_follows_of_reaches hreaches
  obtain ⟨-, hworkers, hresults⟩ := (Pool.orderly_of_reaches hreaches).left hstuck
  obtain rfl := hfollows.pool_eq
  exact ⟨drive, hdrive, stuck_of_left hworkers hresults, hreport⟩

end Drive

end FunctionSearch.Batch
