import FunctionSearch.Decompiler.Pool
import Mathlib.Algebra.Ring.Nat
import Mathlib.Data.List.Basic
import Mathlib.Data.List.Perm.Basic
import Mathlib.Logic.Relation
import Mathlib.Order.WellFounded

/-!
# What every step of a pool keeps

A pool works towards an expected list of reports by way of jobs. `Staffed` says how the calls, the
queue and the workers fit together while it does, whatever the decompiler answers.

* The calls so far, the queue and the jobs in hand are the jobs (`called`).
* While there are jobs, there are workers, and none has left (`attended`).

`Sound` says how the channel, the slots and the counter fit together with them, for a decompiler
whose answers are known.

* Every place whose slot is empty is on its way exactly once, as a job or as a report, and no other
  place is (`pending`).
* The steps shown so far are numbered from one and show what is in the slots (`numbered`, `shown`).

Every step keeps this (`Sound.next`) and leaves less to do (`work_lt`), and where nothing is left to
do nothing is missing (`Sound.finished`).
-/

namespace FunctionSearch.Batch

section Runs

variable {σ : Type}

/-- One pool after any number of steps of another one. -/
abbrev Reaches (decompiler : Decompiler σ) (output : Path) : Pool σ → Pool σ → Prop :=
  Relation.ReflTransGen (Pool.Next decompiler output)

/-- A pool in which no step is left. -/
def Stuck (decompiler : Decompiler σ) (output : Path) (pool : Pool σ) : Prop :=
  ∀ pool', ¬ Pool.Next decompiler output pool pool'

end Runs

/-- The report on a binary whose decompilation has a known result. -/
def reportBy (result : Path → Except DecompileError DecompileReport) (binary : Path) :
    BinaryReport :=
  ⟨binary, outcomeOf (result binary)⟩

namespace Worker

/-- The place that a worker has to do with. -/
def place? : Worker → Option Nat
  | .working job => some job.place
  | .reporting delivery => some delivery.place
  | _ => none

/-- The job that a worker has in hand. -/
def job? : Worker → Option Job
  | .working job => some job
  | _ => none

@[simp] theorem place?_ready : place? .ready = none := rfl

@[simp] theorem place?_working (job : Job) : place? (.working job) = some job.place := rfl

@[simp] theorem place?_reporting (delivery : Delivery) :
    place? (.reporting delivery) = some delivery.place := rfl

@[simp] theorem place?_gone : place? .gone = none := rfl

@[simp] theorem job?_ready : job? .ready = none := rfl

@[simp] theorem job?_working (job : Job) : job? (.working job) = some job := rfl

@[simp] theorem job?_reporting (delivery : Delivery) : job? (.reporting delivery) = none := rfl

@[simp] theorem job?_gone : job? .gone = none := rfl

/-- What a worker has in hand will fill its place as expected. -/
inductive Fits (result : Path → Except DecompileError DecompileReport)
    (expected : List BinaryReport) : Worker → Prop
  | ready : Fits result expected .ready
  | working {job : Job} (h : expected[job.place]? = some (reportBy result job.binary)) :
    Fits result expected (.working job)
  | reporting {delivery : Delivery} (h : expected[delivery.place]? = some delivery.report) :
    Fits result expected (.reporting delivery)
  | gone : Fits result expected .gone

end Worker

namespace Pool

variable {σ : Type}

/-- The places that are on their way to their slots. -/
def pending (pool : Pool σ) : List Nat :=
  pool.queue.map Job.place ++ pool.workers.filterMap Worker.place? ++
    pool.results.map Delivery.place

/-- How the calls, the queue and the workers of a pool fit together that works by way of `jobs`. -/
structure Staffed (jobs : List Job) (pool : Pool σ) : Prop where
  called : (pool.calls ++ (pool.queue ++ pool.workers.filterMap Worker.job?)).Perm jobs
  attended : pool.queue = [] ∨ pool.workers ≠ [] ∧ ∀ worker ∈ pool.workers, worker ≠ .gone

/-- How the parts of a pool fit together that works towards `expected` by way of `jobs`. -/
structure Sound (result : Path → Except DecompileError DecompileReport)
    (expected : List BinaryReport) (jobs : List Job) (pool : Pool σ) : Prop
    extends Staffed jobs pool where
  length_slots : pool.slots.length = expected.length
  filled : ∀ (i : Nat) report, pool.slots[i]? = some (some report) → expected[i]? = some report
  pending : ∀ i, pool.pending.count i = if pool.slots[i]? = some none then 1 else 0
  queued : ∀ job ∈ pool.queue, expected[job.place]? = some (reportBy result job.binary)
  held : ∀ worker ∈ pool.workers, worker.Fits result expected
  sent : ∀ delivery ∈ pool.results, expected[delivery.place]? = some delivery.report
  counted : pool.completed = pool.progress.length
  numbered : pool.progress.map Step.completed = List.range' 1 pool.progress.length
  totalled : ∀ step ∈ pool.progress, step.total = expected.length
  shown : (pool.progress.map Step.report).Perm (pool.slots.filterMap id)

variable {decompiler : Decompiler σ} {output : Path}
  {result : Path → Except DecompileError DecompileReport} {expected : List BinaryReport}
  {jobs : List Job} {pool pool' : Pool σ}

/-! ## Steps keep the pool sound -/

theorem decompileOne_fst (hresult : ∀ binary world,
    (decompiler.decompile binary output world).1 = result binary) (binary : Path)
    (world : World σ) :
    (decompileOne decompiler output binary world).1 = reportBy result binary := by
  rw [reportBy, ← hresult binary world]
  rfl

/-- Filling a slot that was empty adds one report to those that are in. -/
theorem perm_filterMap_set {slots : List (Option BinaryReport)} {i : Nat} (report : BinaryReport)
    (h : slots[i]? = some none) :
    ((slots.set i (some report)).filterMap id).Perm (report :: slots.filterMap id) := by
  induction slots generalizing i with
  | nil => cases h
  | cons slot slots ih =>
    cases i with
    | zero =>
      obtain rfl : slot = none := Option.some.inj h
      exact List.Perm.refl _
    | succ i =>
      have hrest := ih (i := i) h
      cases slot with
      | none => exact hrest
      | some other => exact (hrest.cons other).trans (List.Perm.swap report other _)

/-- What holds of all workers holds of them after one of them has come to something else. -/
theorem forall_mem_replace {P : Worker → Prop} {before after : List Worker} {old new : Worker}
    (h : ∀ worker ∈ before ++ old :: after, P worker) (hnew : P new) :
    ∀ worker ∈ before ++ new :: after, P worker := by
  simp only [List.forall_mem_append, List.forall_mem_cons] at h ⊢
  exact ⟨h.1, hnew, h.2.2⟩

/-! ### Calls, queue and workers -/

theorem Staffed.take {before after : List Worker} {job : Job} {queue : List Job}
    (h : Staffed jobs pool) (hworkers : pool.workers = before ++ .ready :: after)
    (hqueue : pool.queue = job :: queue) :
    Staffed jobs { pool with queue := queue, workers := before ++ .working job :: after } where
  called := by
    refine List.Perm.trans (List.perm_iff_count.mpr fun j => ?_) h.called
    simp only [hworkers, hqueue, List.filterMap_append, List.filterMap_cons, Worker.job?_ready,
      Worker.job?_working, List.count_append, List.count_cons]
    omega
  attended := by
    obtain hnil | ⟨-, hstay⟩ := h.attended
    · simp [hqueue] at hnil
    · exact .inr ⟨by simp, forall_mem_replace (hworkers ▸ hstay) (by simp)⟩

theorem Staffed.decompile {before after : List Worker} {job : Job} {delivery : Delivery}
    {world : World σ} (h : Staffed jobs pool)
    (hworkers : pool.workers = before ++ .working job :: after) :
    Staffed jobs
      { pool with
        workers := before ++ .reporting delivery :: after
        calls := pool.calls ++ [job]
        world := world } where
  called := by
    refine List.Perm.trans (List.perm_iff_count.mpr fun j => ?_) h.called
    simp only [hworkers, List.filterMap_append, List.filterMap_cons, Worker.job?_reporting,
      Worker.job?_working, List.count_append, List.count_cons, List.count_nil]
    omega
  attended := h.attended.imp_right fun ⟨_, hstay⟩ =>
    ⟨by simp, forall_mem_replace (hworkers ▸ hstay) (by simp)⟩

theorem Staffed.send {before after : List Worker} {delivery : Delivery} {results : List Delivery}
    (h : Staffed jobs pool) (hworkers : pool.workers = before ++ .reporting delivery :: after) :
    Staffed jobs { pool with workers := before ++ .ready :: after, results := results } where
  called := by
    have hcalled := h.called
    simpa only [hworkers, List.filterMap_append, List.filterMap_cons, Worker.job?_ready,
      Worker.job?_reporting] using hcalled
  attended := h.attended.imp_right fun ⟨_, hstay⟩ =>
    ⟨by simp, forall_mem_replace (hworkers ▸ hstay) (by simp)⟩

theorem Staffed.leave {before after : List Worker} (h : Staffed jobs pool)
    (hworkers : pool.workers = before ++ .ready :: after) (hqueue : pool.queue = []) :
    Staffed jobs { pool with workers := before ++ .gone :: after } where
  called := by
    have hcalled := h.called
    simpa only [hworkers, List.filterMap_append, List.filterMap_cons, Worker.job?_ready,
      Worker.job?_gone] using hcalled
  attended := .inl hqueue

/-- **Every step keeps a pool staffed.** -/
theorem Staffed.next (h : Staffed jobs pool) (hnext : Next decompiler output pool pool') :
    Staffed jobs pool' := by
  cases hnext with
  | take hworkers hqueue => exact h.take hworkers hqueue
  | decompile hworkers => exact h.decompile hworkers
  | send hworkers => exact h.send hworkers
  | leave hworkers hqueue => exact h.leave hworkers hqueue
  | receive hresults => exact ⟨h.called, h.attended⟩

/-! ### Channel, slots and counter -/

theorem Sound.take {before after : List Worker} {job : Job} {queue : List Job}
    (h : Sound result expected jobs pool) (hworkers : pool.workers = before ++ .ready :: after)
    (hqueue : pool.queue = job :: queue) :
    Sound result expected jobs
      { pool with queue := queue, workers := before ++ .working job :: after } where
  length_slots := h.length_slots
  filled := h.filled
  pending i := by
    rw [← h.pending i]
    simp only [Pool.pending, hworkers, hqueue, List.map_cons, List.filterMap_append,
      List.filterMap_cons, Worker.place?_ready, Worker.place?_working, List.count_append,
      List.count_cons]
    omega
  queued other hother := h.queued other (by simp [hqueue, hother])
  held := forall_mem_replace (hworkers ▸ h.held) (.working (h.queued job (by simp [hqueue])))
  sent := h.sent
  toStaffed := h.toStaffed.take hworkers hqueue
  counted := h.counted
  numbered := h.numbered
  totalled := h.totalled
  shown := h.shown

theorem Sound.decompile (hresult : ∀ binary world,
    (decompiler.decompile binary output world).1 = result binary) {before after : List Worker}
    {job : Job} (h : Sound result expected jobs pool)
    (hworkers : pool.workers = before ++ .working job :: after) :
    Sound result expected jobs
      { pool with
        workers := before ++ .reporting
          ⟨job.place, (decompileOne decompiler output job.binary pool.world).1⟩ :: after
        calls := pool.calls ++ [job]
        world := (decompileOne decompiler output job.binary pool.world).2 } where
  length_slots := h.length_slots
  filled := h.filled
  pending i := by
    rw [← h.pending i]
    simp only [Pool.pending, hworkers, List.filterMap_append, List.filterMap_cons,
      Worker.place?_working, Worker.place?_reporting]
  queued := h.queued
  held := by
    have hjob : Worker.Fits result expected (.working job) := h.held _ (by simp [hworkers])
    cases hjob with
    | working hjob =>
      refine forall_mem_replace (hworkers ▸ h.held) (.reporting ?_)
      rw [decompileOne_fst hresult]
      exact hjob
  sent := h.sent
  toStaffed := h.toStaffed.decompile hworkers
  counted := h.counted
  numbered := h.numbered
  totalled := h.totalled
  shown := h.shown

theorem Sound.send {before after : List Worker} {delivery : Delivery}
    (h : Sound result expected jobs pool)
    (hworkers : pool.workers = before ++ .reporting delivery :: after) :
    Sound result expected jobs
      { pool with
        workers := before ++ .ready :: after
        results := pool.results ++ [delivery] } where
  length_slots := h.length_slots
  filled := h.filled
  pending i := by
    rw [← h.pending i]
    simp only [Pool.pending, hworkers, List.filterMap_append, List.filterMap_cons,
      Worker.place?_ready, Worker.place?_reporting, List.map_append, List.map_cons, List.map_nil,
      List.count_append, List.count_cons, List.count_nil]
    omega
  queued := h.queued
  held := forall_mem_replace (hworkers ▸ h.held) .ready
  sent := by
    have hdelivery : Worker.Fits result expected (.reporting delivery) :=
      h.held _ (by simp [hworkers])
    cases hdelivery with
    | reporting hdelivery =>
      rw [List.forall_mem_append, List.forall_mem_singleton]
      exact ⟨h.sent, hdelivery⟩
  toStaffed := h.toStaffed.send hworkers
  counted := h.counted
  numbered := h.numbered
  totalled := h.totalled
  shown := h.shown

theorem Sound.leave {before after : List Worker} (h : Sound result expected jobs pool)
    (hworkers : pool.workers = before ++ .ready :: after) (hqueue : pool.queue = []) :
    Sound result expected jobs { pool with workers := before ++ .gone :: after } where
  length_slots := h.length_slots
  filled := h.filled
  pending i := by
    rw [← h.pending i]
    simp only [Pool.pending, hworkers, List.filterMap_append, List.filterMap_cons,
      Worker.place?_ready, Worker.place?_gone]
  queued := h.queued
  held := forall_mem_replace (hworkers ▸ h.held) .gone
  sent := h.sent
  toStaffed := h.toStaffed.leave hworkers hqueue
  counted := h.counted
  numbered := h.numbered
  totalled := h.totalled
  shown := h.shown

theorem Sound.receive {delivery : Delivery} {results : List Delivery}
    (h : Sound result expected jobs pool) (hresults : pool.results = delivery :: results) :
    Sound result expected jobs
      { pool with
        results := results
        slots := pool.slots.set delivery.place (some delivery.report)
        completed := pool.completed + 1
        progress := pool.progress ++
          [⟨pool.completed + 1, pool.slots.length, delivery.report⟩] } := by
  have hopen : pool.slots[delivery.place]? = some none := by
    have hcount := h.pending delivery.place
    by_contra hfull
    rw [if_neg hfull] at hcount
    simp [Pool.pending, hresults] at hcount
  have hlt : delivery.place < pool.slots.length := (List.getElem?_eq_some_iff.mp hopen).1
  refine
    { length_slots := by rw [List.length_set]; exact h.length_slots
      filled := fun i report hi => ?_
      pending := fun i => ?_
      queued := h.queued
      held := h.held
      sent := fun other hother => h.sent other (by simp [hresults, hother])
      called := h.called
      counted := by simp [h.counted]
      numbered := ?_
      totalled := ?_
      shown := ?_
      attended := h.attended }
  · rw [List.getElem?_set] at hi
    split at hi
    · next heq =>
      obtain rfl : delivery.report = report := by simpa [heq ▸ hlt] using hi
      exact heq ▸ h.sent delivery (by simp [hresults])
    · exact h.filled i report hi
  · have hcount := h.pending i
    simp only [Pool.pending, hresults, List.map_cons, List.count_append,
      List.count_cons] at hcount ⊢
    rw [List.getElem?_set]
    by_cases heq : delivery.place = i
    · subst heq
      simp only [hopen, hlt, if_true, beq_self_eq_true, reduceCtorEq, Option.some.injEq,
        if_false] at hcount ⊢
      omega
    · simpa [heq] using hcount
  · rw [List.map_append, h.numbered, List.length_append, List.length_singleton,
      List.range'_concat, h.counted, List.map_singleton, Nat.one_mul, Nat.add_comm 1]
  · rw [List.forall_mem_append, List.forall_mem_singleton]
    exact ⟨h.totalled, h.length_slots⟩
  · rw [List.map_append]
    refine List.Perm.trans ?_ (perm_filterMap_set delivery.report hopen).symm
    exact (List.perm_append_singleton _ _).trans (h.shown.cons delivery.report)

/-- **Every step keeps a pool sound.** -/
theorem Sound.next (hresult : ∀ binary world,
    (decompiler.decompile binary output world).1 = result binary)
    (h : Sound result expected jobs pool) (hnext : Next decompiler output pool pool') :
    Sound result expected jobs pool' := by
  cases hnext with
  | take hworkers hqueue => exact h.take hworkers hqueue
  | decompile hworkers => exact h.decompile hresult hworkers
  | send hworkers => exact h.send hworkers
  | leave hworkers hqueue => exact h.leave hworkers hqueue
  | receive hresults => exact h.receive hresults

/-! ## Steps come to an end -/

/-- The number of steps that a worker can still make with what it has in hand, and its report in the
channel. -/
def workOf : Worker → Nat
  | .ready => 1
  | .working _ => 5
  | .reporting _ => 4
  | .gone => 0

/-- A bound of the number of steps that are left. -/
def work (pool : Pool σ) : Nat :=
  5 * pool.queue.length + (pool.workers.map workOf).sum + 2 * pool.results.length

/-- **Every step leaves less to do.** -/
theorem work_lt (hnext : Next decompiler output pool pool') : pool'.work < pool.work := by
  cases hnext with
  | take hworkers hqueue =>
    simp only [work, workOf, hworkers, hqueue, List.map_append, List.map_cons, List.sum_append,
      List.sum_cons, List.length_cons]
    omega
  | decompile hworkers | leave hworkers _ =>
    simp only [work, workOf, hworkers, List.map_append, List.map_cons, List.sum_append,
      List.sum_cons]
    omega
  | send hworkers =>
    simp only [work, workOf, hworkers, List.map_append, List.map_cons, List.sum_append,
      List.sum_cons, List.length_append, List.length_singleton]
    omega
  | receive hresults =>
    simp only [work, hresults, List.length_cons]
    omega

/-- **No run goes on for ever.** -/
theorem not_forall_next (run : Nat → Pool σ) :
    ¬ ∀ n, Next decompiler output (run n) (run (n + 1)) := by
  intro h
  obtain ⟨n, hn⟩ := WellFounded.not_rel_apply_succ (r := (· < ·)) fun n => (run n).work
  exact hn (work_lt (h n))

/-- A worker that is not gone can do something. -/
theorem exists_next {worker : Worker} (hmem : worker ∈ pool.workers) (hstay : worker ≠ .gone) :
    ∃ pool', Next decompiler output pool pool' := by
  obtain ⟨before, after, hworkers⟩ := List.append_of_mem hmem
  cases worker with
  | ready =>
    cases hqueue : pool.queue with
    | nil => exact ⟨_, .leave hworkers hqueue⟩
    | cons job queue => exact ⟨_, .take hworkers hqueue⟩
  | working job => exact ⟨_, .decompile hworkers⟩
  | reporting delivery => exact ⟨_, .send hworkers⟩
  | gone => exact absurd rfl hstay

/-- A pool in which nothing is left to do. -/
structure Finished (expected : List BinaryReport) (pool : Pool σ) : Prop where
  queue : pool.queue = []
  workers : ∀ worker ∈ pool.workers, worker = .gone
  results : pool.results = []
  slots : pool.slots = expected.map some

/-- Where a staffed pool stops, no job is left. -/
theorem Staffed.left (h : Staffed jobs pool)
    (hstuck : ∀ pool', ¬ Next decompiler output pool pool') :
    pool.queue = [] ∧ (∀ worker ∈ pool.workers, worker = .gone) ∧ pool.results = [] := by
  have hworkers : ∀ worker ∈ pool.workers, worker = .gone := by
    intro worker hmem
    by_contra hstay
    obtain ⟨pool', hnext⟩ := exists_next hmem hstay
    exact hstuck pool' hnext
  have hqueue : pool.queue = [] := by
    obtain hnil | ⟨hne, hstay⟩ := h.attended
    · exact hnil
    · obtain ⟨worker, hmem⟩ := List.exists_mem_of_ne_nil _ hne
      exact absurd (hworkers worker hmem) (hstay worker hmem)
  have hresults : pool.results = [] := by
    cases hresults : pool.results with
    | nil => rfl
    | cons delivery results => exact absurd (.receive hresults) (hstuck _)
  exact ⟨hqueue, hworkers, hresults⟩

/-- **When no job is left, the decompiler was called once for every job.** -/
theorem Staffed.perm_calls (h : Staffed jobs pool) (hqueue : pool.queue = [])
    (hworkers : ∀ worker ∈ pool.workers, worker = .gone) : pool.calls.Perm jobs := by
  have hnone : pool.workers.filterMap Worker.job? = [] := by
    refine List.filterMap_eq_nil_iff.mpr fun worker hworker => ?_
    rw [hworkers worker hworker, Worker.job?_gone]
  have hcalled := h.called
  rwa [hqueue, hnone, List.append_nil, List.append_nil] at hcalled

/-- **Where a sound pool stops, nothing is missing.** -/
theorem Sound.finished (h : Sound result expected jobs pool)
    (hstuck : ∀ pool', ¬ Next decompiler output pool pool') : Finished expected pool := by
  obtain ⟨hqueue, hworkers, hresults⟩ := h.left hstuck
  have hpending : pool.pending = [] := by
    rw [Pool.pending, hqueue, hresults, List.filterMap_eq_nil_iff.mpr]
    · rfl
    · intro worker hmem
      rw [hworkers worker hmem, Worker.place?_gone]
  refine ⟨hqueue, hworkers, hresults, List.ext_getElem? fun i => ?_⟩
  have hcount := h.pending i
  rw [hpending, List.count_nil] at hcount
  rw [List.getElem?_map]
  cases hslot : pool.slots[i]? with
  | none =>
    rw [List.getElem?_eq_none_iff, h.length_slots, ← List.getElem?_eq_none_iff] at hslot
    rw [hslot, Option.map_none]
  | some slot =>
    cases slot with
    | none => simp [hslot] at hcount
    | some report => rw [h.filled i report hslot, Option.map_some]

end Pool

end FunctionSearch.Batch
