import FunctionSearch.Proofs.Decompiler.Pool

/-!
# Decompilers that keep what they are given

A pool keeps a list of the jobs that its decompiler was called for. That this is what the decompiler
was given is seen from the other side, with a decompiler that keeps all binaries it is given.

* `Decompiler.recording` keeps them in the state of the outside, behind those of `World.keeping`.
* `Pool.recorded` is a pool whose world has kept the binaries of its calls. It can make the steps of
  the pool itself (`next_recorded`) and no others (`exists_next_of_recorded`).
* `reaches_recording_iff`: so the runs with the one decompiler are those with the other, and what is
  kept is in each of them what the list of calls says.
-/

namespace FunctionSearch

variable {σ : Type}

/-- A world in which these binaries were kept. -/
def World.keeping (world : World σ) (binaries : List Path) : World (σ × List Path) where
  files := world.files
  clock := world.clock
  outside := (world.outside, binaries)

/-- A decompiler that also keeps the binaries it is given. -/
def Decompiler.recording (decompiler : Decompiler σ) : Decompiler (σ × List Path) where
  name := decompiler.name
  decompile binary output world :=
    let (result, after) := decompiler.decompile binary output
      ⟨world.files, world.clock, world.outside.1⟩
    (result, after.keeping (world.outside.2 ++ [binary]))

namespace Batch

variable {decompiler : Decompiler σ} {output : Path} {pool pool' : Pool σ}

theorem decompileOne_recording (binary : Path) (world : World σ) (kept : List Path) :
    decompileOne decompiler.recording output binary (world.keeping kept) =
      ((decompileOne decompiler output binary world).1,
        (decompileOne decompiler output binary world).2.keeping (kept ++ [binary])) := rfl

namespace Pool

/-- A pool whose world has kept the binaries of its calls. -/
def recorded (pool : Pool σ) : Pool (σ × List Path) :=
  { pool with world := pool.world.keeping (pool.calls.map Job.binary) }

/-- **What a pool does, it does with a decompiler that keeps what it is given.** -/
theorem next_recorded (hnext : Next decompiler output pool pool') :
    Next decompiler.recording output pool.recorded pool'.recorded := by
  cases hnext with
  | take hworkers hqueue => exact .take hworkers hqueue
  | @decompile before after job hworkers =>
    have hstep : Next decompiler.recording output pool.recorded _ := .decompile hworkers
    simpa [recorded, decompileOne_recording] using hstep
  | send hworkers => exact .send hworkers
  | leave hworkers hqueue => exact .leave hworkers hqueue
  | receive hresults => exact .receive hresults

/-- **It does nothing else with it.** -/
theorem exists_next_of_recorded {next : Pool (σ × List Path)}
    (hnext : Next decompiler.recording output pool.recorded next) :
    ∃ pool', Next decompiler output pool pool' ∧ next = pool'.recorded := by
  cases hnext with
  | take hworkers hqueue => exact ⟨_, .take hworkers hqueue, rfl⟩
  | decompile hworkers =>
    refine ⟨_, .decompile hworkers, ?_⟩
    simp [recorded, decompileOne_recording]
  | send hworkers => exact ⟨_, .send hworkers, rfl⟩
  | leave hworkers hqueue => exact ⟨_, .leave hworkers hqueue, rfl⟩
  | receive hresults => exact ⟨_, .receive hresults, rfl⟩

end Pool

/-- **The runs with a decompiler that keeps what it is given** are the runs without it, and what it
has kept are the binaries of the calls. -/
theorem reaches_recording_iff {workers : Nat} {binaries : List Path} {world : World σ}
    {recorded : Pool (σ × List Path)} :
    Reaches decompiler.recording output (Pool.start workers binaries (world.keeping [])) recorded ↔
      ∃ pool, Reaches decompiler output (Pool.start workers binaries world) pool ∧
        recorded = pool.recorded := by
  constructor
  · intro h
    induction h with
    | refl => exact ⟨_, .refl, rfl⟩
    | tail _ hnext ih =>
      obtain ⟨pool, hreaches, rfl⟩ := ih
      obtain ⟨pool', hnext', rfl⟩ := Pool.exists_next_of_recorded hnext
      exact ⟨pool', hreaches.tail hnext', rfl⟩
  · rintro ⟨pool, hreaches, rfl⟩
    exact Relation.ReflTransGen.lift Pool.recorded (fun _ _ => Pool.next_recorded) _ _ hreaches

end Batch

end FunctionSearch
