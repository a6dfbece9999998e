import FunctionSearch.Proofs.Decompiler.Drive

/-!
# Schedules that are played out

A step of a pool is a move of one worker or of the collector, and what a worker is at says what it
does next. So a schedule is a list of those who move, and it can be played out.

* `Drive.move?`: what one of them does;
* `next_of_move?`: a move is a step;
* `reaches_of_play?`: playing out a schedule leads to a pool that can be reached.
-/

namespace FunctionSearch.Batch.Drive

open Headless

variable {σ : Type} {setting : Setting σ} {drive drive' : Drive σ}

/-- Who moves next: the worker with this number, or the collector. -/
inductive Mover where
  | worker (i : Nat)
  | collector
  deriving DecidableEq, Repr

/-- What the worker with this number does. -/
def moveWorker? (setting : Setting σ) (drive : Drive σ) (i : Nat) : Worker → Option (Drive σ)
  | .ready =>
    match drive.pool.queue with
    | [] => some { drive with
        pool := { drive.pool with workers := drive.pool.workers.set i .gone } }
    | job :: queue => some { drive with
        pool := { drive.pool with
          queue := queue
          workers := drive.pool.workers.set i (.working job) } }
  | .working job =>
    match drive.stages job.place with
    | .done result => some { drive with
        pool := { drive.pool with
          workers := drive.pool.workers.set i
            (.reporting ⟨job.place, ⟨job.binary, outcomeOf result⟩⟩)
          calls := drive.pool.calls ++ [job] } }
    | stage => some (drive.record job.place
        (setting.analyzer.advance setting.launcher job.binary setting.output stage
          drive.pool.world))
  | .reporting delivery => some { drive with
      pool := { drive.pool with
        workers := drive.pool.workers.set i .ready
        results := drive.pool.results ++ [delivery] } }
  | .gone => none

/-- What one of them does, if there is anything to do. -/
def move? (setting : Setting σ) (drive : Drive σ) : Mover → Option (Drive σ)
  | .worker i => drive.pool.workers[i]?.bind (moveWorker? setting drive i)
  | .collector =>
    match drive.pool.results with
    | [] => none
    | delivery :: results => some { drive with
        pool := { drive.pool with
          results := results
          slots := drive.pool.slots.set delivery.place (some delivery.report)
          completed := drive.pool.completed + 1
          progress := drive.pool.progress ++
            [⟨drive.pool.completed + 1, drive.pool.slots.length, delivery.report⟩] } }

/-- The pool after these moves, if all of them can be made. -/
def play? (setting : Setting σ) (movers : List Mover) (drive : Drive σ) : Option (Drive σ) :=
  movers.foldlM (move? setting) drive

theorem next_of_moveWorker? {i : Nat} {worker : Worker}
    (hworker : drive.pool.workers[i]? = some worker)
    (h : moveWorker? setting drive i worker = some drive') :
    Next setting.analyzer setting.launcher setting.output drive drive' := by
  obtain ⟨hlt, hget⟩ := List.getElem?_eq_some_iff.mp hworker
  have hset : ∀ other, drive.pool.workers.set i other =
      drive.pool.workers.take i ++ other :: drive.pool.workers.drop (i + 1) := by
    intro other
    rw [List.set_eq_take_append_cons_drop, if_pos hlt]
  have hworkers : drive.pool.workers =
      drive.pool.workers.take i ++ worker :: drive.pool.workers.drop (i + 1) := by
    rw [← hset, ← hget, List.set_getElem_self]
  cases worker with
  | ready =>
    rw [moveWorker?] at h
    split at h
    next hqueue =>
      obtain rfl := Option.some.inj h
      rw [hset]
      exact .other (.leave hworkers hqueue) rfl
    next job queue hqueue =>
      obtain rfl := Option.some.inj h
      rw [hset]
      exact .other (.take hworkers hqueue) rfl
  | working job =>
    rw [moveWorker?] at h
    split at h
    next result hstage =>
      obtain rfl := Option.some.inj h
      rw [hset]
      exact .deliver hworkers hstage
    next stage hstage =>
      obtain rfl := Option.some.inj h
      exact .advance (List.mem_of_getElem? hworker) hstage
  | reporting delivery =>
    obtain rfl := Option.some.inj h
    rw [hset]
    exact .other (.send hworkers) rfl
  | gone => cases h

/-- **A move is a step.** -/
theorem next_of_move? {mover : Mover} (h : move? setting drive mover = some drive') :
    Next setting.analyzer setting.launcher setting.output drive drive' := by
  cases mover with
  | worker i =>
    obtain ⟨worker, hworker, hmove⟩ := Option.bind_eq_some_iff.mp h
    exact next_of_moveWorker? hworker hmove
  | collector =>
    rw [move?] at h
    split at h
    · cases h
    next delivery results hresults =>
      obtain rfl := Option.some.inj h
      exact .other (.receive hresults) rfl

/-- **Playing out a schedule leads to a pool that can be reached.** -/
theorem reaches_of_play? {movers : List Mover} (h : play? setting movers drive = some drive') :
    Reaches setting drive drive' := by
  induction movers generalizing drive with
  | nil =>
    obtain rfl := Option.some.inj h
    exact .refl
  | cons mover movers ih =>
    rw [play?, List.foldlM_cons] at h
    obtain ⟨between, hmove, hrest⟩ := Option.bind_eq_some_iff.mp h
    exact .head (next_of_move? hmove) (ih hrest)

end FunctionSearch.Batch.Drive
