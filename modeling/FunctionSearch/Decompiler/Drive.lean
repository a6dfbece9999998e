import FunctionSearch.Decompiler.Headless
import FunctionSearch.Decompiler.Pool

/-!
# The analyzer in a pool

Between the steps of one decompilation other workers make theirs, and all of them write to one
output directory.

* `Headless.Stage` and `Headless.advance`: a decompilation in its three steps, which are to list the
  artifacts that are there, to run the analyzer, and to list the artifacts again;
* `Headless.advance_begun`: the three steps make `Headless.decompile`;
* `Drive`: a pool of workers with the stage of every job;
* `Drive.Next`: one step of one worker or of the collector, whichever comes next.
-/

namespace FunctionSearch

variable {σ : Type}

/-! ## Stages -/

namespace Headless

/-- How far the decompilation of a binary has come. -/
inductive Stage where
  | begun
  /-- The artifacts are listed that were there before. -/
  | listed (digest : String) (since : Duration) (before : List Name)
  /-- The analyzer has run well. -/
  | ran (digest : String) (since : Duration) (before : List Name)
  | done (result : Except DecompileError DecompileReport)

/-- The next step of a decompilation. -/
def advance (analyzer : Headless) (launcher : External.Launcher (World σ)) (binary output : Path) :
    Stage → World σ → Stage × World σ
  | .begun, world =>
    if !world.files.isFile binary then (.done (.error (.missingBinary binary)), world)
    else match world.files.read binary with
      | .error cause => (.done (.error (.io binary cause)), world)
      | .ok content =>
        (.listed (Digest.Sha256.hex content) world.clock
          (Artifact.namesOf world.files output binary.fileNameText), world)
  | .listed digest since before, world =>
    match analyzer.invoke launcher binary output digest world with
    | (.error error, world) => (.done (.error error), world)
    | (.ok (), world) => (.ran digest since before, world)
  | .ran digest since before, world =>
    let program := binary.fileNameText
    let functions := countNew before (Artifact.namesOf world.files output program)
    if functions = 0 then (.done (.error (.noOutput program)), world)
    else
      let elapsed := ⟨world.clock.milliseconds - since.milliseconds⟩
      (.done (.ok ⟨binary, digest, functions, elapsed⟩), world)
  | .done result, world => (.done result, world)

/-- **Three steps make a decompilation.** -/
theorem advance_begun (analyzer : Headless) (launcher : External.Launcher (World σ))
    (binary output : Path) (world : World σ) :
    let first := analyzer.advance launcher binary output .begun world
    let second := analyzer.advance launcher binary output first.1 first.2
    analyzer.advance launcher binary output second.1 second.2 =
      (.done (analyzer.decompile launcher binary output world).1,
        (analyzer.decompile launcher binary output world).2) := by
  unfold decompile
  cases hfile : world.files.isFile binary with
  | false => simp [advance, hfile]
  | true =>
    cases hread : world.files.read binary with
    | error cause => simp [advance, hfile, hread]
    | ok content =>
      dsimp only
      generalize hrun : analyzer.invoke launcher binary output (Digest.Sha256.hex content) world =
        run
      obtain ⟨outcome, after⟩ := run
      cases outcome with
      | error error => simp [advance, hfile, hread, hrun]
      | ok =>
        simp only [advance, hfile, hread, hrun, Bool.not_true, Bool.false_eq_true, if_false]
        split <;> rfl

end Headless

/-! ## Pools -/

namespace Batch

/-- A pool of workers that start the analyzer, with the stage of the job for every place. -/
structure Drive (σ : Type) where
  pool : Pool σ
  stages : Nat → Headless.Stage

namespace Drive

/-- The pool in which work starts. -/
def start (workers : Nat) (binaries : List Path) (world : World σ) : Drive σ where
  pool := Pool.start workers binaries world
  stages := fun _ => .begun

/-- Another world, and another stage for the job at a place. -/
def record (drive : Drive σ) (place : Nat) (next : Headless.Stage × World σ) : Drive σ where
  pool := { drive.pool with world := next.2 }
  stages := fun i => if i = place then next.1 else drive.stages i

/-- One step of one worker or of the collector. A worker that has a job comes one stage further with
it, or takes the result if there is one; all other steps are those of the pool. -/
inductive Next (analyzer : Headless) (launcher : External.Launcher (World σ)) (output : Path) :
    Drive σ → Drive σ → Prop
  | advance {drive : Drive σ} {job : Job} (hworker : .working job ∈ drive.pool.workers)
    (hstage : ∀ result, drive.stages job.place ≠ .done result) :
    Next analyzer launcher output drive
      (drive.record job.place
        (analyzer.advance launcher job.binary output (drive.stages job.place) drive.pool.world))
  | deliver {drive : Drive σ} {before after : List Worker} {job : Job}
    {result : Except DecompileError DecompileReport}
    (hworkers : drive.pool.workers = before ++ .working job :: after)
    (hstage : drive.stages job.place = .done result) :
    Next analyzer launcher output drive
      { drive with
        pool := { drive.pool with
          workers := before ++ .reporting ⟨job.place, ⟨job.binary, outcomeOf result⟩⟩ :: after
          calls := drive.pool.calls ++ [job] } }
  | other {drive : Drive σ} {pool : Pool σ}
    (hnext : Pool.Next (analyzer.decompiler launcher) output drive.pool pool)
    (hcalls : pool.calls = drive.pool.calls) :
    Next analyzer launcher output drive { drive with pool := pool }

end Drive

end Batch

end FunctionSearch
