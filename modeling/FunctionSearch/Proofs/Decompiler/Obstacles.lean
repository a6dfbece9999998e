import FunctionSearch.Proofs.Artifact.Counted
import FunctionSearch.Proofs.Decompiler.Outset
import Mathlib.Data.Set.Card

/-!
# What keeps a decompilation from a report

A decompilation by itself, whatever stands in the output directory and whatever the analyzer does to
the tree. Several things can fail in turn, and the first one that does is the answer. If none does,
the answer is the number of artifacts that were not there before.

* `Obstacle` says what can keep a decompilation from a report, each with the turn in which it is
  met. `First` is one that is met before all others.
* `first_of_eq_error` and `not_obstacle_of_eq_ok`: the answer is the first obstacle, or there is
  none.
* `accounts_decompile` puts this together, with the scratch directory that is gone in the end.
-/

namespace FunctionSearch

/-! ## Artifacts that appear -/

/-- A name that a directory lists. -/
def FileTree.Lists (tree : FileTree) (directory : Path) (name : Name) : Prop :=
  ∃ entries, tree.list directory = .ok entries ∧ name ∈ entries.map Prod.fst

namespace Artifact

variable {tree before after : FileTree} {directory : Path} {program : String} {name : Name}

/-- An artifact of a program that a directory lists afterwards and did not list before. -/
structure Appears (before after : FileTree) (directory : Path) (program : String) (name : Name) :
    Prop where
  belongs : belongsTo program name = true
  listed : after.Lists directory name
  unlisted : ¬ before.Lists directory name

theorem mem_namesOf_iff_lists :
    name ∈ namesOf tree directory program ↔
      tree.Lists directory name ∧ belongsTo program name = true := by
  cases hlist : tree.list directory with
  | error cause => simp [namesOf, FileTree.Lists, hlist]
  | ok entries =>
    rw [mem_namesOf_of_list hlist]
    simp [FileTree.Lists, hlist]

theorem nodup_namesOf (h : (tree.entries.map Prod.fst).Nodup) :
    (namesOf tree directory program).Nodup := by
  rw [namesOf]
  split
  next entries hlist =>
    obtain ⟨location, -, rfl⟩ := FileTree.list_eq_ok_iff.mp hlist
    exact (FileTree.nodup_names h location).filter _
  · exact List.nodup_nil

/-- **The names that were not there before are the artifacts that appear**, each counted once. -/
theorem countNew_eq_ncard (hafter : (after.entries.map Prod.fst).Nodup) :
    Headless.countNew (namesOf before directory program) (namesOf after directory program) =
      {name | Appears before after directory program name}.ncard := by
  have hset : {name | Appears before after directory program name} =
      ((namesOf after directory program).filter
        fun name => !(namesOf before directory program).contains name).toFinset := by
    ext name
    rw [Set.mem_ofPred_eq, List.coe_toFinset, Set.mem_ofPred_eq, List.mem_filter,
      Bool.not_eq_true', List.contains_eq_mem, decide_eq_false_iff_not, mem_namesOf_iff_lists,
      mem_namesOf_iff_lists]
    constructor
    · rintro ⟨hbelongs, hlisted, hunlisted⟩
      exact ⟨⟨hlisted, hbelongs⟩, fun h => hunlisted h.1⟩
    · rintro ⟨⟨hlisted, hbelongs⟩, hunlisted⟩
      exact ⟨hbelongs, hlisted, fun h => hunlisted ⟨h, hbelongs⟩⟩
  rw [hset, Set.ncard_coe_finset, List.toFinset_card_of_nodup ((nodup_namesOf hafter).filter _),
    Headless.countNew, List.countP_eq_length_filter]

theorem countNew_eq_zero_iff :
    Headless.countNew (namesOf before directory program) (namesOf after directory program) = 0 ↔
      ∀ name, ¬ Appears before after directory program name := by
  simp only [Headless.countNew, List.countP_eq_zero, Bool.not_eq_true', List.contains_eq_mem,
    decide_eq_false_iff_not, not_not, mem_namesOf_iff_lists]
  constructor
  · intro h name ⟨hbelongs, hlisted, hunlisted⟩
    exact hunlisted (h name ⟨hlisted, hbelongs⟩).1
  · intro h name ⟨hlisted, hbelongs⟩
    by_contra hnot
    exact h name ⟨hbelongs, hlisted, fun hold => hnot ⟨hold, hbelongs⟩⟩

end Artifact

namespace Headless

open FileTree

variable {σ : Type}

/-! ## Obstacles -/

/-- What can keep a decompilation from a report, with the turn in which it is met. In the turns up
to the fourth the analyzer is not started. -/
inductive Obstacle (analyzer : Headless) (launcher : External.Launcher (World σ))
    (binary output : Path) (world : World σ) : Nat → DecompileError → Prop
  | missing (hfile : world.files.isFile binary = false) :
      Obstacle analyzer launcher binary output world 0 (.missingBinary binary)
  | unreadable {cause : IoError} (hread : world.files.read binary = .error cause) :
      Obstacle analyzer launcher binary output world 1 (.io binary cause)
  | noScratch {cause : IoError}
      (hcreate : Scratch.create world.files analyzer.scratchParent scratchStem = .error cause) :
      Obstacle analyzer launcher binary output world 2 (.io analyzer.scratchParent cause)
  | noRoom {scratch : Scratch} {files : FileTree} {path : Path} {cause : IoError}
      (hcreate : Scratch.create world.files analyzer.scratchParent scratchStem =
        .ok (scratch, files))
      (hprepare : prepare files scratch.path output = .error (.io path cause)) :
      Obstacle analyzer launcher binary output world 3 (.io path cause)
  | notUtf8 (htext : output.text? = none) :
      Obstacle analyzer launcher binary output world 4 (.notUtf8 output)
  | stopped {outset : Outset σ} {error : DecompileError}
      (houtset : analyzer.outset binary output world = .ok outset)
      (hstopped : outset.Stopped analyzer launcher binary error) :
      Obstacle analyzer launcher binary output world 5 error
  | failed {outset : Outset σ} {ended : External.Output}
      (houtset : analyzer.outset binary output world = .ok outset)
      (hended : outset.Becomes analyzer launcher binary (.ended ended))
      (hstatus : ended.status ≠ .exited 0) :
      Obstacle analyzer launcher binary output world 6
        (.failed ended.status.text (ended.stderrTail quotedLines))
  | noOutput
      (hnone : ∀ name, ¬ Artifact.Appears world.files
        (analyzer.decompile launcher binary output world).2.files output binary.fileNameText
        name) :
      Obstacle analyzer launcher binary output world 7 (.noOutput binary.fileNameText)

section Obstacle

variable {analyzer : Headless} {launcher : External.Launcher (World σ)} {binary output : Path}
  {world : World σ} {turn : Nat} {error other : DecompileError}

/-- In every turn one obstacle at most is met. -/
theorem Obstacle.unique (h : Obstacle analyzer launcher binary output world turn error)
    (hother : Obstacle analyzer launcher binary output world turn other) : error = other := by
  cases h with
  | missing => cases hother; rfl
  | unreadable hread => cases hother with
    | unreadable hread' => rw [Except.error.inj (hread.symm.trans hread')]
  | noScratch hcreate => cases hother with
    | noScratch hcreate' => rw [Except.error.inj (hcreate.symm.trans hcreate')]
  | noRoom hcreate hprepare => cases hother with
    | noRoom hcreate' hprepare' =>
      obtain ⟨rfl, rfl⟩ := Prod.mk.inj (Except.ok.inj (hcreate.symm.trans hcreate'))
      exact Except.error.inj (hprepare.symm.trans hprepare')
  | notUtf8 => cases hother; rfl
  | stopped houtset hstopped => cases hother with
    | stopped houtset' hstopped' =>
      obtain rfl := Except.ok.inj (houtset.symm.trans houtset')
      exact hstopped.unique hstopped'
  | failed houtset hended => cases hother with
    | failed houtset' hended' =>
      obtain rfl := Except.ok.inj (houtset.symm.trans houtset')
      rw [hended.output_eq hended']
  | noOutput => cases hother; rfl

/-- The obstacle that is met before all others. -/
def First (analyzer : Headless) (launcher : External.Launcher (World σ)) (binary output : Path)
    (world : World σ) (turn : Nat) (error : DecompileError) : Prop :=
  Obstacle analyzer launcher binary output world turn error ∧
    ∀ turn' other, Obstacle analyzer launcher binary output world turn' other → turn ≤ turn'

/-! A step that goes well leaves the obstacles of later turns only. -/

namespace Obstacle

variable {content : Bytes} {scratch : Scratch} {files : FileTree} {outset : Outset σ}
  {ended : External.Output} (h : Obstacle analyzer launcher binary output world turn error)

include h

theorem one_le (hfile : world.files.isFile binary = true) : 1 ≤ turn := by
  refine Nat.pos_of_ne_zero ?_
  rintro rfl
  cases h with
  | missing hmissing => cases hfile.symm.trans hmissing

theorem two_le (hfile : world.files.isFile binary = true)
    (hread : world.files.read binary = .ok content) : 2 ≤ turn := by
  refine Nat.lt_of_le_of_ne (h.one_le hfile) ?_
  rintro rfl
  cases h with
  | unreadable hunreadable => cases hread.symm.trans hunreadable

theorem three_le (hfile : world.files.isFile binary = true)
    (hread : world.files.read binary = .ok content)
    (hcreate : Scratch.create world.files analyzer.scratchParent scratchStem =
      .ok (scratch, files)) : 3 ≤ turn := by
  refine Nat.lt_of_le_of_ne (h.two_le hfile hread) ?_
  rintro rfl
  cases h with
  | noScratch hnone => cases hcreate.symm.trans hnone

theorem four_le (hfile : world.files.isFile binary = true)
    (hread : world.files.read binary = .ok content)
    (hcreate : Scratch.create world.files analyzer.scratchParent scratchStem =
      .ok (scratch, files))
    (hprepare : ∀ path cause, prepare files scratch.path output ≠ .error (.io path cause)) :
    4 ≤ turn := by
  refine Nat.lt_of_le_of_ne (h.three_le hfile hread hcreate) ?_
  rintro rfl
  cases h with
  | noRoom hcreate' hnone =>
    obtain ⟨rfl, rfl⟩ := Prod.mk.inj (Except.ok.inj (hcreate.symm.trans hcreate'))
    exact hprepare _ _ hnone

end Obstacle

/-! ## The answer -/

/-- **What stops a decompilation before the analyzer is started is its first obstacle.** -/
theorem first_of_outset_eq_error (hwellFormed : world.files.WellFormed)
    (h : analyzer.outset binary output world = .error error) :
    ∃ turn ≤ 4, First analyzer launcher binary output world turn error := by
  rw [outset] at h
  split at h
  next hfile =>
    cases h
    exact ⟨0, by omega, .missing hfile, fun _ _ _ => Nat.zero_le _⟩
  next hfile =>
    rw [Bool.not_eq_false] at hfile
    split at h
    next cause hread =>
      cases h
      exact ⟨1, by omega, .unreadable hread, fun _ _ hother => hother.one_le hfile⟩
    next content hread =>
      split at h
      next cause hcreate =>
        cases h
        exact ⟨2, by omega, .noScratch hcreate, fun _ _ hother => hother.two_le hfile hread⟩
      next scratch files hcreate =>
        split at h
        next first hprepare =>
          cases h
          obtain ⟨path, cause, rfl⟩ | ⟨rfl, htext⟩ :=
            prepare_created_eq_error hwellFormed hcreate hprepare
          · exact ⟨3, by omega, .noRoom hcreate hprepare,
              fun _ _ hother => hother.three_le hfile hread hcreate⟩
          · exact ⟨4, by omega, .notUtf8 htext,
              fun _ _ hother => hother.four_le hfile hread hcreate (by simp [hprepare])⟩
        · cases h

/-! Once the analyzer can be started, the obstacles that are left are those of its run. -/

namespace Obstacle

variable {outset : Outset σ} {ended : External.Output} (hwellFormed : world.files.WellFormed)
  (houtset : analyzer.outset binary output world = .ok outset)
  (h : Obstacle analyzer launcher binary output world turn error)

include hwellFormed houtset h

theorem five_le : 5 ≤ turn := by
  have hmade := made_of_outset_eq_ok hwellFormed houtset
  obtain ⟨text, htext⟩ := hmade.text
  obtain ⟨files, hcreate, hprepare⟩ := hmade.prepared
  refine Nat.lt_of_le_of_ne (h.four_le hmade.isFile hmade.read hcreate (by simp [hprepare])) ?_
  rintro rfl
  cases h with
  | notUtf8 hnone => cases htext.symm.trans hnone

theorem six_le (hended : outset.Becomes analyzer launcher binary (.ended ended)) : 6 ≤ turn := by
  refine Nat.lt_of_le_of_ne (h.five_le hwellFormed houtset) ?_
  rintro rfl
  cases h with
  | stopped houtset' hstopped =>
    obtain rfl := Except.ok.inj (houtset.symm.trans houtset')
    exact hended.not_stopped hstopped

theorem seven_le (hended : outset.Becomes analyzer launcher binary (.ended ended))
    (hstatus : ended.status = .exited 0) : 7 ≤ turn := by
  refine Nat.lt_of_le_of_ne (h.six_le hwellFormed houtset hended) ?_
  rintro rfl
  cases h with
  | failed houtset' hended' hfailed =>
    obtain rfl := Except.ok.inj (houtset.symm.trans houtset')
    obtain rfl := hended.output_eq hended'
    exact hfailed hstatus

/-- There is none if the run ends with success and an artifact appears. -/
theorem false_of_appears (hended : outset.Becomes analyzer launcher binary (.ended ended))
    (hstatus : ended.status = .exited 0) {name : Name}
    (hname : Artifact.Appears world.files
      (analyzer.decompile launcher binary output world).2.files output binary.fileNameText name) :
    False := by
  have hturn := h.seven_le hwellFormed houtset hended hstatus
  cases h with
  | noOutput hnone => exact hnone name hname
  | _ => omega

end Obstacle

/-- What a run meets that does not go well. -/
theorem first_of_check_eq_error (hwellFormed : world.files.WellFormed) {outset : Outset σ}
    (houtset : analyzer.outset binary output world = .ok outset)
    (h : check (outset.attempt analyzer launcher binary).1 = .error error) :
    ∃ turn, First analyzer launcher binary output world turn error := by
  cases hattempt : (outset.attempt analyzer launcher binary).1 with
  | error failure =>
    rw [hattempt] at h
    exact ⟨5, .stopped houtset (stopped_iff.mpr ⟨failure, hattempt, h⟩),
      fun _ _ hother => hother.five_le hwellFormed houtset⟩
  | ok ended =>
    have hended := fst_attempt_eq_ok_iff.mp hattempt
    rw [hattempt, check] at h
    split at h
    · cases h
    next hstatus =>
      cases h
      exact ⟨6, .failed houtset hended fun heq => hstatus (beq_iff_eq.mpr heq),
        fun _ _ hother => hother.six_le hwellFormed houtset hended⟩

/-- **A failure is the first obstacle.** -/
theorem first_of_eq_error (hwellFormed : world.files.WellFormed)
    (h : (analyzer.decompile launcher binary output world).1 = .error error) :
    ∃ turn, First analyzer launcher binary output world turn error := by
  rw [decompile_eq hwellFormed] at h
  cases houtset : analyzer.outset binary output world with
  | error first =>
    rw [houtset] at h
    cases h
    obtain ⟨turn, -, hfirst⟩ := first_of_outset_eq_error hwellFormed houtset
    exact ⟨turn, hfirst⟩
  | ok outset =>
    rw [houtset] at h
    dsimp only [Outset.conclude] at h
    split at h
    next first hcheck =>
      cases h
      exact first_of_check_eq_error hwellFormed houtset hcheck
    next hcheck =>
      split at h
      next hzero =>
        cases h
        obtain ⟨ended, hattempt, hstatus⟩ := check_eq_ok hcheck
        have hended := fst_attempt_eq_ok_iff.mp hattempt
        rw [← snd_decompile hwellFormed houtset, Artifact.countNew_eq_zero_iff] at hzero
        exact ⟨7, .noOutput hzero,
          fun _ _ hother => hother.seven_le hwellFormed houtset hended hstatus⟩
      · cases h

/-- The analyzer was started and ended with success. -/
def Succeeds (analyzer : Headless) (launcher : External.Launcher (World σ)) (binary output : Path)
    (world : World σ) : Prop :=
  ∃ outset ended, analyzer.outset binary output world = .ok outset ∧
    outset.Becomes analyzer launcher binary (.ended ended) ∧ ended.status = .exited 0

/-- **A report says how many artifacts appeared** in a run that went well. -/
theorem appears_of_eq_ok (hwellFormed : world.files.WellFormed)
    {report : DecompileReport}
    (h : (analyzer.decompile launcher binary output world).1 = .ok report) :
    Succeeds analyzer launcher binary output world ∧
      report.functions = countNew
        (Artifact.namesOf world.files output binary.fileNameText)
        (Artifact.namesOf (analyzer.decompile launcher binary output world).2.files output
          binary.fileNameText) ∧
      ∃ name, Artifact.Appears world.files
        (analyzer.decompile launcher binary output world).2.files output binary.fileNameText
        name := by
  cases houtset : analyzer.outset binary output world with
  | error first =>
    rw [decompile_eq hwellFormed, houtset] at h
    cases h
  | ok outset =>
    rw [snd_decompile hwellFormed houtset]
    rw [decompile_eq hwellFormed, houtset] at h
    dsimp only [Outset.conclude] at h
    split at h
    · cases h
    next hcheck =>
      obtain ⟨ended, hattempt, hstatus⟩ := check_eq_ok hcheck
      split at h
      · cases h
      next hzero =>
        cases h
        rw [Artifact.countNew_eq_zero_iff] at hzero
        push Not at hzero
        exact ⟨⟨outset, ended, houtset, fst_attempt_eq_ok_iff.mp hattempt, hstatus⟩, rfl, hzero⟩

end Obstacle

/-! ## The whole account -/

/-- What a decompilation by itself comes to. -/
structure Accounts (analyzer : Headless) (launcher : External.Launcher (World σ))
    (binary output : Path) (world : World σ) : Prop where
  /-- There is a report if the binary is a file that can be read, the output directory has a text,
  the analyzer ended with success, and an artifact appeared. -/
  reported : (∃ report, (analyzer.decompile launcher binary output world).1 = .ok report) ↔
    (world.files.isFile binary = true ∧ ∃ content, world.files.read binary = .ok content) ∧
    (∃ text, output.text? = some text) ∧
    Succeeds analyzer launcher binary output world ∧
    ∃ name, Artifact.Appears world.files
      (analyzer.decompile launcher binary output world).2.files output binary.fileNameText name
  /-- It says how many artifacts appeared. -/
  counted : ∀ report, (analyzer.decompile launcher binary output world).1 = .ok report →
    report.functions = {name | Artifact.Appears world.files
      (analyzer.decompile launcher binary output world).2.files output binary.fileNameText
      name}.ncard
  /-- Otherwise the answer is the first obstacle. -/
  refused : ∀ error, (analyzer.decompile launcher binary output world).1 = .error error ↔
    ∃ turn, First analyzer launcher binary output world turn error
  /-- In the turns up to the fourth nothing is started: whatever the outside makes of a program,
  nothing changes. -/
  unstarted : ∀ turn error, First analyzer launcher binary output world turn error → turn ≤ 4 →
    ∀ launcher', analyzer.decompile launcher' binary output world = (.error error, world)
  /-- Nothing is left where the scratch directory is made. -/
  discarded : ∀ scratch files,
    Scratch.create world.files analyzer.scratchParent scratchStem = .ok (scratch, files) →
    ∀ location, scratch.location <+: location →
      (analyzer.decompile launcher binary output world).2.files.at? location = none

section Accounts

variable {analyzer : Headless} {launcher : External.Launcher (World σ)} {binary output : Path}
  {world : World σ} {turn : Nat} {error : DecompileError}

theorem not_obstacle_of_eq_ok (hwellFormed : world.files.WellFormed) {report : DecompileReport}
    (h : (analyzer.decompile launcher binary output world).1 = .ok report) :
    ¬ Obstacle analyzer launcher binary output world turn error := by
  obtain ⟨⟨outset, ended, houtset, hended, hstatus⟩, -, name, hname⟩ :=
    appears_of_eq_ok hwellFormed h
  exact fun hobstacle => hobstacle.false_of_appears hwellFormed houtset hended hstatus hname

theorem eq_error_iff_first (hwellFormed : world.files.WellFormed) :
    (analyzer.decompile launcher binary output world).1 = .error error ↔
      ∃ turn, First analyzer launcher binary output world turn error := by
  refine ⟨first_of_eq_error hwellFormed, ?_⟩
  rintro ⟨turn, hobstacle, hleast⟩
  cases hresult : (analyzer.decompile launcher binary output world).1 with
  | ok report => exact absurd hobstacle (not_obstacle_of_eq_ok hwellFormed hresult)
  | error other =>
    obtain ⟨turn', hobstacle', hleast'⟩ := first_of_eq_error hwellFormed hresult
    -- both are met first, so in the same turn
    obtain rfl : turn = turn' :=
      Nat.le_antisymm (hleast turn' other hobstacle') (hleast' turn error hobstacle)
    rw [hobstacle.unique hobstacle']

/-- What is refused at the outset is refused whatever the analyzer would have done. -/
theorem decompile_of_first (hwellFormed : world.files.WellFormed)
    (h : First analyzer launcher binary output world turn error) (hturn : turn ≤ 4)
    (launcher' : External.Launcher (World σ)) :
    analyzer.decompile launcher' binary output world = (.error error, world) := by
  cases houtset : analyzer.outset binary output world with
  | error other =>
    have hresult := (eq_error_iff_first hwellFormed).mpr ⟨turn, h⟩
    rw [decompile_eq hwellFormed, houtset] at hresult
    rw [decompile_eq hwellFormed, houtset, Except.error.inj hresult]
  | ok outset =>
    have := h.1.five_le hwellFormed houtset
    omega

/-- **The scratch directory is gone**, with all that was put into it. -/
theorem at?_decompile_below (hwellFormed : world.files.WellFormed) {scratch : Scratch}
    {files : FileTree}
    (hcreate : Scratch.create world.files analyzer.scratchParent scratchStem =
      .ok (scratch, files)) {location : Location} (hbelow : scratch.location <+: location) :
    (analyzer.decompile launcher binary output world).2.files.at? location = none := by
  obtain ⟨hfresh, -⟩ := Scratch.create_eq_ok hcreate
  cases houtset : analyzer.outset binary output world with
  | error other =>
    rw [decompile_eq hwellFormed, houtset]
    exact hfresh.vacant_below hwellFormed hbelow
  | ok outset =>
    obtain ⟨_, hcreate', -⟩ := (made_of_outset_eq_ok hwellFormed houtset).prepared
    obtain ⟨rfl, -⟩ := Prod.mk.inj (Except.ok.inj (hcreate.symm.trans hcreate'))
    rw [snd_decompile hwellFormed houtset]
    exact (at?_remove (hfresh.location_ne_nil hwellFormed) location).trans (if_pos hbelow)

/-- An analyzer that leaves each location once still does so in the tree that is left. -/
theorem nodup_left (hwellFormed : world.files.WellFormed)
    (hlauncher : ∀ invocation started, started.files.WellFormed →
      ((launcher invocation started).2.files.entries.map Prod.fst).Nodup) :
    ((analyzer.decompile launcher binary output world).2.files.entries.map Prod.fst).Nodup := by
  cases houtset : analyzer.outset binary output world with
  | error other =>
    rw [decompile_eq hwellFormed, houtset]
    exact hwellFormed.nodup
  | ok outset =>
    have hstarted := (made_of_outset_eq_ok hwellFormed houtset).wellFormed
    rw [snd_decompile hwellFormed houtset]
    refine nodup_remove ?_ _
    rw [Outset.attempt, External.run]
    split
    · exact hlauncher _ _ hstarted
    · exact hstarted.nodup

/-- **A decompilation by itself comes to the number of artifacts that appeared, or else to its
first obstacle**, and its scratch directory is gone. This holds whatever the analyzer does, as long
as it leaves a tree in which every location stands once. -/
theorem accounts_decompile (analyzer : Headless) (launcher : External.Launcher (World σ))
    (binary output : Path) (world : World σ) (hwellFormed : world.files.WellFormed)
    (hlauncher : ∀ invocation started, started.files.WellFormed →
      ((launcher invocation started).2.files.entries.map Prod.fst).Nodup) :
    Accounts analyzer launcher binary output world where
  reported := by
    constructor
    · rintro ⟨report, hreport⟩
      obtain ⟨hsucceeds, -, happears⟩ := appears_of_eq_ok hwellFormed hreport
      have hsucceeds' := hsucceeds
      obtain ⟨outset, -, houtset, -⟩ := hsucceeds'
      have hmade := made_of_outset_eq_ok hwellFormed houtset
      exact ⟨⟨hmade.isFile, outset.content, hmade.read⟩, hmade.text, hsucceeds, happears⟩
    · rintro ⟨-, -, ⟨outset, ended, houtset, hended, hstatus⟩, name, hname⟩
      cases hresult : (analyzer.decompile launcher binary output world).1 with
      | ok report => exact ⟨report, rfl⟩
      | error error =>
        obtain ⟨turn, hobstacle, -⟩ := first_of_eq_error hwellFormed hresult
        exact (hobstacle.false_of_appears hwellFormed houtset hended hstatus hname).elim
  counted := fun report hreport => by
    rw [(appears_of_eq_ok hwellFormed hreport).2.1]
    exact Artifact.countNew_eq_ncard (nodup_left hwellFormed hlauncher)
  refused := fun _ => eq_error_iff_first hwellFormed
  unstarted := fun _ _ hfirst hturn => decompile_of_first hwellFormed hfirst hturn
  discarded := fun _ _ hcreate _ hbelow => at?_decompile_below hwellFormed hcreate hbelow

end Accounts

/-! ## An analyzer that meddles -/

/-- A world with a binary and with artifacts of an earlier run. -/
def usedWorld (readable : Bool) : World Unit where
  files :=
    { entries := [([Text.bytes "a"], .file [0] ⟨readable, false⟩), ([Text.bytes "out"], .directory),
        ([Text.bytes "tmp"], .directory),
        ([Text.bytes "out", Text.bytes "a__f__1.c"], .file [] false),
        ([Text.bytes "out", Text.bytes "a__g__1.c"], .file [] false)]
      workingDirectory := [] }
  clock := ⟨0⟩
  outside := ()

/-- An analyzer that removes an artifact, writes another one over, and adds two of the program and
one of another program. -/
def meddling : External.Launcher (World Unit) := fun _ world =>
  let out (name : String) : Location := [Text.bytes "out", Text.bytes name]
  let kept := (world.files.remove (out "a__f__1.c")).put (out "a__g__1.c") (.file [1] false)
  let added := ["a__h__2.c", "b__f__2.c", "a__f__2.c"].foldl
    (fun tree name => tree.put (out name) (.file [] false)) kept
  (.ended ⟨.exited 0, [], []⟩, { world with files := added })

theorem nodup_meddling (invocation : External.Invocation) (started : World Unit)
    (h : started.files.WellFormed) :
    ((meddling invocation started).2.files.entries.map Prod.fst).Nodup := by
  have hkept := nodup_put (nodup_remove h.nodup [Text.bytes "out", Text.bytes "a__f__1.c"])
    [Text.bytes "out", Text.bytes "a__g__1.c"] (.file [1] false)
  exact nodup_put (nodup_put (nodup_put hkept _ _) _ _) _ _

/-- Its run is reported with the two artifacts of the program that are new. It is not started for a
binary that cannot be read. -/
theorem accounts_decompile_meddling :
    let analyzer : Headless := ⟨.ofString "analyzer", none, none, .ofString "tmp"⟩
    (∀ readable, (usedWorld readable).files.WellFormed ∧
      Accounts analyzer meddling (.ofString "a") (.ofString "out") (usedWorld readable)) ∧
    (∃ report, (analyzer.decompile meddling (.ofString "a") (.ofString "out")
        (usedWorld true)).1 = .ok report ∧ report.functions = 2) ∧
    ∀ launcher, analyzer.decompile launcher (.ofString "a") (.ofString "out") (usedWorld false) =
      (.error (.io (.ofString "a") .accessDenied), usedWorld false) := by
  intro analyzer
  have hwellFormed : ∀ readable, (usedWorld readable).files.WellFormed := by decide +kernel
  have haccounts : ∀ readable, Accounts analyzer meddling (.ofString "a") (.ofString "out")
      (usedWorld readable) :=
    fun readable => accounts_decompile _ _ _ _ _ (hwellFormed readable) nodup_meddling
  have hfile : (usedWorld false).files.isFile (.ofString "a") = true := by decide +kernel
  have hread : (usedWorld false).files.read (.ofString "a") = .error .accessDenied := by
    decide +kernel
  refine ⟨fun readable => ⟨hwellFormed readable, haccounts readable⟩,
    ⟨⟨.ofString "a", Digest.Sha256.hex [0], 2, ⟨0⟩⟩, by decide +kernel, rfl⟩, ?_⟩
  exact (haccounts false).unstarted 1 _
    ⟨.unreadable hread, fun _ _ hother => hother.one_le hfile⟩ (by omega)

end Headless

end FunctionSearch
