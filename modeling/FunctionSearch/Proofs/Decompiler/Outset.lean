import FunctionSearch.Proofs.Decompiler.Invoke

/-!
# The outset of a decompilation

A decompilation up to the start of the analyzer, and what follows on it.

* `outset` is what is done before the analyzer is started, and `decompile_eq` what follows on it.
* `Outset.Becomes` says what the outside makes of the analyzer, and `Outset.Stopped` why it does not
  come to an end: `fst_attempt_eq_ok_iff` and `stopped_iff` say that it has output or one of these
  reasons applies.
* `Outset.Made`: what an outset says about the world that it was made in.
-/

namespace FunctionSearch.Headless

open FileTree

variable {σ : Type}

/-! ## Before and after the start -/

/-- What is there when the analyzer is about to be started. -/
structure Outset (σ : Type) where
  /-- The content of the binary. -/
  content : Bytes
  scratch : Scratch
  world : World σ

/-- What is done before the analyzer is started. -/
def outset (analyzer : Headless) (binary output : Path) (world : World σ) :
    Except DecompileError (Outset σ) :=
  if world.files.isFile binary = false then .error (.missingBinary binary)
  else match world.files.read binary with
    | .error cause => .error (.io binary cause)
    | .ok content =>
      match Scratch.create world.files analyzer.scratchParent scratchStem with
      | .error cause => .error (.io analyzer.scratchParent cause)
      | .ok (scratch, files) =>
        match prepare files scratch.path output with
        | .error error => .error error
        | .ok files => .ok ⟨content, scratch, { world with files }⟩

/-- The run of the analyzer that is about to be started. -/
def Outset.invocation (outset : Outset σ) (analyzer : Headless) (binary : Path) :
    External.Invocation :=
  analyzer.invocation outset.scratch.path binary (Digest.Sha256.hex outset.content)

/-- What the analyzer comes to when it is started, and the world in which it ends. -/
def Outset.attempt (outset : Outset σ) (analyzer : Headless)
    (launcher : External.Launcher (World σ)) (binary : Path) :
    Except External.Failure External.Output × World σ :=
  External.run launcher (outset.invocation analyzer binary) outset.world

/-- The world that is left once the scratch directory is gone. -/
def Outset.left (outset : Outset σ) (analyzer : Headless) (launcher : External.Launcher (World σ))
    (binary : Path) : World σ :=
  let ended := (outset.attempt analyzer launcher binary).2
  { ended with files := outset.scratch.discard ended.files }

/-- What a decompilation comes to once the analyzer was started. -/
def Outset.conclude (outset : Outset σ) (analyzer : Headless)
    (launcher : External.Launcher (World σ)) (binary output : Path) (world : World σ) :
    Except DecompileError DecompileReport :=
  let program := binary.fileNameText
  let left := outset.left analyzer launcher binary
  match check (outset.attempt analyzer launcher binary).1 with
  | .error error => .error error
  | .ok () =>
    let functions := countNew (Artifact.namesOf world.files output program)
      (Artifact.namesOf left.files output program)
    if functions = 0 then .error (.noOutput program)
    else .ok ⟨binary, Digest.Sha256.hex outset.content, functions,
      ⟨left.clock.milliseconds - world.clock.milliseconds⟩⟩

/-- No zero byte stands in the name of the analyzer or in an argument, which it would end. -/
def Outset.Passable (outset : Outset σ) (analyzer : Headless) (binary : Path) : Prop :=
  ∀ text ∈ analyzer.program.bytes :: (outset.invocation analyzer binary).arguments, 0 ∉ text

/-- What the outside makes of the analyzer, which is not started if something cannot be passed. -/
structure Outset.Becomes (outset : Outset σ) (analyzer : Headless)
    (launcher : External.Launcher (World σ)) (binary : Path) (behaviour : External.Behaviour) :
    Prop where
  passable : outset.Passable analyzer binary
  answered : (launcher (outset.invocation analyzer binary) outset.world).1 = behaviour

/-- Why the analyzer does not come to an end. -/
inductive Outset.Stopped (outset : Outset σ) (analyzer : Headless)
    (launcher : External.Launcher (World σ)) (binary : Path) : DecompileError → Prop
  | unpassable (h : ¬ outset.Passable analyzer binary) :
      Stopped outset analyzer launcher binary (.spawn (External.Failure.spawn
        (outset.invocation analyzer binary).name .zeroByteArgument).message)
  | refused {cause : IoError}
      (h : outset.Becomes analyzer launcher binary (.refused cause)) :
      Stopped outset analyzer launcher binary (.spawn (External.Failure.spawn
        (outset.invocation analyzer binary).name cause).message)
  | lost {cause : IoError} (h : outset.Becomes analyzer launcher binary (.lost cause)) :
      Stopped outset analyzer launcher binary (.spawn (External.Failure.wait
        (outset.invocation analyzer binary).name cause).message)
  | overdue (h : outset.Becomes analyzer launcher binary .overdue) :
      Stopped outset analyzer launcher binary (.timeout (analyzer.limit.getD ⟨0⟩))

section Outset

variable {analyzer : Headless} {launcher : External.Launcher (World σ)} {binary output : Path}
  {world : World σ} {outset : Outset σ} {error : DecompileError}

theorem isWhole_eq_true_iff :
    (outset.invocation analyzer binary).isWhole = true ↔ outset.Passable analyzer binary := by
  simp only [External.Invocation.isWhole, List.all_eq_true, Bool.not_eq_true',
    External.hasZeroByte, List.contains_eq_mem, decide_eq_false_iff_not]
  rfl

/-- An analyzer that can be started comes to what the outside makes of it. -/
theorem fst_attempt_of_passable (h : outset.Passable analyzer binary) :
    (outset.attempt analyzer launcher binary).1 = External.outputOf
      (outset.invocation analyzer binary)
      (launcher (outset.invocation analyzer binary) outset.world).1 := by
  rw [Outset.attempt, External.run, if_pos (isWhole_eq_true_iff.mpr h)]

theorem fst_attempt_of_unpassable (h : ¬ outset.Passable analyzer binary) :
    (outset.attempt analyzer launcher binary).1 =
      .error (.spawn (outset.invocation analyzer binary).name .zeroByteArgument) := by
  rw [Outset.attempt, External.run, if_neg (mt isWhole_eq_true_iff.mp h)]
  rfl

/-- **The analyzer has output exactly if the outside lets it come to an end.** -/
theorem fst_attempt_eq_ok_iff {ended : External.Output} :
    (outset.attempt analyzer launcher binary).1 = .ok ended ↔
      outset.Becomes analyzer launcher binary (.ended ended) := by
  constructor
  · intro h
    have hpassable : outset.Passable analyzer binary := by
      by_contra hnot
      cases (fst_attempt_of_unpassable hnot).symm.trans h
    refine ⟨hpassable, ?_⟩
    rw [fst_attempt_of_passable hpassable] at h
    cases hbehaviour : (launcher (outset.invocation analyzer binary) outset.world).1 with
    | ended output =>
      rw [hbehaviour] at h
      rw [Except.ok.inj h]
    | _ =>
      rw [hbehaviour] at h
      cases h
  · rintro ⟨hpassable, hanswered⟩
    rw [fst_attempt_of_passable hpassable, hanswered]
    rfl

/-- **It has none for one of the reasons named.** -/
theorem stopped_iff : outset.Stopped analyzer launcher binary error ↔
    ∃ failure, (outset.attempt analyzer launcher binary).1 = .error failure ∧
      check (.error failure) = .error error := by
  constructor
  · intro h
    cases h with
    | unpassable hnot => exact ⟨_, fst_attempt_of_unpassable hnot, rfl⟩
    | refused h | lost h | overdue h =>
      exact ⟨_, by rw [fst_attempt_of_passable h.passable, h.answered]; rfl, rfl⟩
  · rintro ⟨failure, hfailure, herror⟩
    by_cases hpassable : outset.Passable analyzer binary
    · rw [fst_attempt_of_passable hpassable] at hfailure
      cases hbehaviour : (launcher (outset.invocation analyzer binary) outset.world).1 with
      | ended output =>
        rw [hbehaviour] at hfailure
        cases hfailure
      | refused cause =>
        rw [hbehaviour] at hfailure
        cases hfailure
        cases herror
        exact .refused ⟨hpassable, hbehaviour⟩
      | lost cause =>
        rw [hbehaviour] at hfailure
        cases hfailure
        cases herror
        exact .lost ⟨hpassable, hbehaviour⟩
      | overdue =>
        rw [hbehaviour] at hfailure
        cases hfailure
        cases herror
        exact .overdue ⟨hpassable, hbehaviour⟩
    · cases (fst_attempt_of_unpassable hpassable).symm.trans hfailure
      cases herror
      exact .unpassable hpassable

theorem Outset.Stopped.unique {other : DecompileError}
    (h : outset.Stopped analyzer launcher binary error)
    (h' : outset.Stopped analyzer launcher binary other) : error = other := by
  obtain ⟨failure, hfailure, herror⟩ := stopped_iff.mp h
  obtain ⟨failure', hfailure', herror'⟩ := stopped_iff.mp h'
  obtain rfl := Except.error.inj (hfailure.symm.trans hfailure')
  exact Except.error.inj (herror.symm.trans herror')

/-- An analyzer that comes to an end is not stopped. -/
theorem Outset.Becomes.not_stopped {ended : External.Output}
    (h : outset.Becomes analyzer launcher binary (.ended ended)) :
    ¬ outset.Stopped analyzer launcher binary error := by
  intro hstopped
  obtain ⟨failure, hfailure, -⟩ := stopped_iff.mp hstopped
  cases (fst_attempt_eq_ok_iff.mpr h).symm.trans hfailure

theorem Outset.Becomes.output_eq {ended other : External.Output}
    (h : outset.Becomes analyzer launcher binary (.ended ended))
    (h' : outset.Becomes analyzer launcher binary (.ended other)) : ended = other :=
  External.Behaviour.ended.inj (h.answered.symm.trans h'.answered)

/-- **A decompilation is its outset and what follows on it.** One that is refused at the outset
leaves the world as it was. -/
theorem decompile_eq (hwellFormed : world.files.WellFormed) :
    analyzer.decompile launcher binary output world =
      match analyzer.outset binary output world with
      | .error error => (.error error, world)
      | .ok outset => (outset.conclude analyzer launcher binary output world,
          outset.left analyzer launcher binary) := by
  rw [decompile, Headless.outset]
  cases hfile : world.files.isFile binary with
  | false => rfl
  | true =>
    simp only [Bool.not_true, Bool.false_eq_true, if_false, Bool.true_eq_false]
    cases world.files.read binary with
    | error cause => rfl
    | ok content =>
      simp only [invoke]
      cases hcreate : Scratch.create world.files analyzer.scratchParent scratchStem with
      | error cause => rfl
      | ok made =>
        obtain ⟨scratch, files⟩ := made
        dsimp only
        cases prepare files scratch.path output with
        | error error =>
          -- nothing was put into the scratch directory yet, so it leaves no trace
          obtain ⟨hfresh, rfl⟩ := Scratch.create_eq_ok hcreate
          dsimp only
          rw [hfresh.discard_put hwellFormed]
        | ok prepared =>
          simp only [Outset.conclude, Outset.left, Outset.attempt, Outset.invocation]
          split
          next error _ hinvoke =>
            obtain ⟨hcheck, rfl⟩ := Prod.mk.inj hinvoke
            simp only [hcheck]
          next after hinvoke =>
            obtain ⟨hcheck, rfl⟩ := Prod.mk.inj hinvoke
            simp only [hcheck]
            exact (apply_ite (·, _) _ _ _).symm

/-- A run is not prepared for want of room for a path, or else of a text for the output
directory. -/
theorem preparation_eq_error {scratch : Path} {error : DecompileError}
    (h : preparation scratch output = .error error) :
    (∃ path cause, error = .io path cause) ∨ error = .notUtf8 output ∧ output.text? = none := by
  rw [preparation] at h
  split at h
  · cases h
    exact .inl ⟨_, _, rfl⟩
  · split at h
    · cases h
      exact .inl ⟨_, _, rfl⟩
    · rw [Export.script] at h
      cases htext : output.text? with
      | none =>
        rw [htext] at h
        cases h
        exact .inr ⟨rfl, rfl⟩
      | some text =>
        rw [htext] at h
        dsimp only at h
        split at h
        · cases h
          exact .inl ⟨_, _, rfl⟩
        · cases h

theorem exists_text_of_preparation {scratch : Path} {script : String}
    (h : preparation scratch output = .ok script) : ∃ text, output.text? = some text := by
  rw [← Option.ne_none_iff_exists']
  intro htext
  have hscript := (preparation_eq_ok h).2.1
  rw [Export.script, htext] at hscript
  cases hscript

section Created

variable (hwellFormed : world.files.WellFormed) {scratch : Scratch} {files : FileTree}
  (hcreate : Scratch.create world.files analyzer.scratchParent scratchStem = .ok (scratch, files))

include hwellFormed hcreate

theorem prepare_created :
    prepare files scratch.path output =
      (preparation scratch.path output).map (prepared files scratch.location) := by
  obtain ⟨hfresh, rfl⟩ := Scratch.create_eq_ok hcreate
  exact prepare_eq (made_below hwellFormed hfresh)
    (hfresh.leads slash_notMem_scratchStem hwellFormed)

theorem prepare_created_eq_error {error : DecompileError}
    (h : prepare files scratch.path output = .error error) :
    (∃ path cause, error = .io path cause) ∨ error = .notUtf8 output ∧ output.text? = none := by
  rw [prepare_created hwellFormed hcreate] at h
  cases hpreparation : preparation scratch.path output with
  | error first =>
    rw [hpreparation] at h
    cases h
    exact preparation_eq_error hpreparation
  | ok script =>
    rw [hpreparation] at h
    cases h

theorem prepare_created_eq_ok {started : FileTree}
    (h : prepare files scratch.path output = .ok started) :
    (∃ text, output.text? = some text) ∧ started.WellFormed := by
  rw [prepare_created hwellFormed hcreate] at h
  cases hpreparation : preparation scratch.path output with
  | error first =>
    rw [hpreparation] at h
    cases h
  | ok script =>
    rw [hpreparation] at h
    cases h
    obtain ⟨hfresh, rfl⟩ := Scratch.create_eq_ok hcreate
    exact ⟨exists_text_of_preparation hpreparation, wellFormed_made hwellFormed hfresh script⟩

end Created

/-- What an outset says about the world that it was made in. -/
structure Outset.Made (analyzer : Headless) (binary output : Path) (world : World σ)
    (outset : Outset σ) : Prop where
  isFile : world.files.isFile binary = true
  read : world.files.read binary = .ok outset.content
  text : ∃ text, output.text? = some text
  prepared : ∃ files,
    Scratch.create world.files analyzer.scratchParent scratchStem = .ok (outset.scratch, files) ∧
      prepare files outset.scratch.path output = .ok outset.world.files
  wellFormed : outset.world.files.WellFormed

theorem made_of_outset_eq_ok (hwellFormed : world.files.WellFormed) {outset : Outset σ}
    (h : analyzer.outset binary output world = .ok outset) :
    outset.Made analyzer binary output world := by
  rw [Headless.outset] at h
  split at h
  · cases h
  next hfile =>
    split at h
    · cases h
    next content hread =>
      split at h
      · cases h
      next scratch files hcreate =>
        split at h
        · cases h
        next started hprepare =>
          cases h
          obtain ⟨htext, hstarted⟩ := prepare_created_eq_ok hwellFormed hcreate hprepare
          exact ⟨by simpa using hfile, hread, htext, ⟨_, hcreate, hprepare⟩, hstarted⟩

/-- A run that went well was started and ended with success. -/
theorem check_eq_ok {outcome : Except External.Failure External.Output}
    (h : check outcome = .ok ()) :
    ∃ ended, outcome = .ok ended ∧ ended.status = .exited 0 := by
  rw [check.eq_def] at h
  split at h
  next ended =>
    split at h
    next hstatus => exact ⟨ended, rfl, eq_of_beq hstatus⟩
    · cases h
  · cases h
  · cases h

theorem snd_decompile (hwellFormed : world.files.WellFormed) {outset : Outset σ}
    (houtset : analyzer.outset binary output world = .ok outset) :
    (analyzer.decompile launcher binary output world).2 =
      outset.left analyzer launcher binary := by
  rw [decompile_eq hwellFormed, houtset]

end Outset

end FunctionSearch.Headless
