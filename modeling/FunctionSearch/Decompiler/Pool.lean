import FunctionSearch.Decompiler.Batch

/-!
# Worker pools

A batch as a system of workers that take jobs from one queue and send reports into one channel, from
which a collector puts every report into the slot of its binary.

* `Pool`: the queue, the workers, the channel and what the collector has so far;
* `Pool.Next`: one step of one worker or of the collector, whichever comes next;
* `Pool.start`: the pool once the outcomes that are known beforehand are in their slots;
* `Pool.report`: the report that the collector makes of its slots at the end.

The order of the steps is left open. `decompileAll` gives the answer of any of them.
-/

namespace FunctionSearch.Batch

/-- A binary to be decompiled, and its place in the list of binaries. -/
structure Job where
  place : Nat
  binary : Path
  deriving DecidableEq, Repr

/-- A report on its way to the slot at a place. -/
structure Delivery where
  place : Nat
  report : BinaryReport
  deriving DecidableEq, Repr

/-- What a worker is at. -/
inductive Worker where
  | ready
  | working (job : Job)
  | reporting (delivery : Delivery)
  | gone
  deriving DecidableEq, Repr

/-- The workers of a batch with all that lies between them. -/
structure Pool (σ : Type) where
  /-- The jobs that nobody has taken, the next one first. -/
  queue : List Job
  workers : List Worker
  /-- The reports that were sent and not received, the oldest first. -/
  results : List Delivery
  slots : List (Option BinaryReport)
  completed : Nat
  progress : List Step
  /-- The jobs that the decompiler was called for, in this order. -/
  calls : List Job
  world : World σ

namespace Pool

variable {σ : Type}

/-! ## Steps -/

/-- One step of one worker or of the collector. A worker leaves when it finds the queue empty, since
nothing is put into it any more. -/
inductive Next (decompiler : Decompiler σ) (output : Path) : Pool σ → Pool σ → Prop
  | take {pool : Pool σ} {before after : List Worker} {job : Job} {queue : List Job}
    (hworkers : pool.workers = before ++ .ready :: after) (hqueue : pool.queue = job :: queue) :
    Next decompiler output pool
      { pool with queue := queue, workers := before ++ .working job :: after }
  | decompile {pool : Pool σ} {before after : List Worker} {job : Job}
    (hworkers : pool.workers = before ++ .working job :: after) :
    Next decompiler output pool
      { pool with
        workers := before ++ .reporting
          ⟨job.place, (decompileOne decompiler output job.binary pool.world).1⟩ :: after
        calls := pool.calls ++ [job]
        world := (decompileOne decompiler output job.binary pool.world).2 }
  | send {pool : Pool σ} {before after : List Worker} {delivery : Delivery}
    (hworkers : pool.workers = before ++ .reporting delivery :: after) :
    Next decompiler output pool
      { pool with workers := before ++ .ready :: after, results := pool.results ++ [delivery] }
  | leave {pool : Pool σ} {before after : List Worker}
    (hworkers : pool.workers = before ++ .ready :: after) (hqueue : pool.queue = []) :
    Next decompiler output pool { pool with workers := before ++ .gone :: after }
  | receive {pool : Pool σ} {delivery : Delivery} {results : List Delivery}
    (hresults : pool.results = delivery :: results) :
    Next decompiler output pool
      { pool with
        results := results
        slots := pool.slots.set delivery.place (some delivery.report)
        completed := pool.completed + 1
        progress := pool.progress ++
          [⟨pool.completed + 1, pool.slots.length, delivery.report⟩] }

/-! ## Beginning and end -/

/-- The jobs among the binaries: those without an outcome that is known beforehand. -/
def jobsOf (items : List (Path × Option BinaryOutcome)) : List Job :=
  items.zipIdx.filterMap fun ((binary, outcome), place) =>
    if outcome.isNone then some ⟨place, binary⟩ else none

/-- The slots once the outcomes that are known beforehand are in. -/
def slotsOf (items : List (Path × Option BinaryOutcome)) : List (Option BinaryReport) :=
  items.map fun (binary, outcome) => outcome.map (⟨binary, ·⟩)

/-- The pool in which work starts: no more workers than jobs, and else as many as asked for, but at
least one. -/
def start (workers : Nat) (binaries : List Path) (world : World σ) : Pool σ :=
  let items := assign world.files binaries
  let jobs := jobsOf items
  let known := (slotsOf items).filterMap id
  { queue := jobs
    workers := List.replicate (min (max workers 1) jobs.length) .ready
    results := []
    slots := slotsOf items
    completed := known.length
    progress := (known.zipIdx 1).map fun (report, i) => ⟨i, binaries.length, report⟩
    calls := []
    world := world }

/-- The report of a slot; one that is empty at the end was left so by a worker that is gone. -/
def reportOf (slot : Option BinaryReport) (binary : Path) : BinaryReport :=
  slot.getD ⟨binary, .failed (.spawn "worker exited before reporting")⟩

/-- The report that the collector makes of its slots. -/
def report (pool : Pool σ) (binaries : List Path) : BatchReport :=
  ⟨List.zipWith reportOf pool.slots binaries⟩

end Pool

end FunctionSearch.Batch
