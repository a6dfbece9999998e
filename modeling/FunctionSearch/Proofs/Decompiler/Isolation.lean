import FunctionSearch.Proofs.Artifact.Collision
import FunctionSearch.Proofs.Decompiler.Exporter
import FunctionSearch.Proofs.Decompiler.Moves
import FunctionSearch.Proofs.Decompiler.Sequence

/-!
# Binaries that do not disturb each other

The artifacts of a binary are told from those of others by the start of their names, so what a
binary comes to in a pool depends on the names of the other binaries.

* `belongsTo_fileName_iff`: which artifacts pass for those of a program. Besides its own, these are
  the artifacts of a program whose name has one underscore more, and some of those of a program
  whose name has one underscore less.
* `NamesApart` excludes this, and is what workers that share a directory rely on (`apart_jobsOf`).
* `ownResult_eq_ok_iff`, `ownResult_eq_noOutput_iff`: what a binary comes to by its own run.
* `isolated_of_every_schedule`: in a pool, every binary comes to what it comes to alone, in whatever
  order the workers take their steps. `not_isolated_of_underscore` is what happens otherwise.
-/

namespace FunctionSearch

open FileTree

/-! ## Whose artifacts they are -/

namespace Artifact

/-- Of two names without separators, the first with a separator starts the second with a separator
and more exactly if they are equal or differ by an underscore that belongs to a separator. -/
theorem prefix_join_iff {program other rest : List Char} (hprogram : ¬ separator <:+: program)
    (hother : ¬ separator <:+: other) :
    program ++ separator <+: other ++ separator ++ rest ↔
      program = other ∨ other = program ++ ['_'] ∨
        (program = other ++ ['_'] ∧ rest.head? = some '_') := by
  have hjoin : program ++ separator <+: other ++ separator ++ rest ↔
      ∃ more, program ++ separator ++ more = other ++ separator ++ rest := Iff.rfl
  simp only [hjoin, join_eq_join_iff]
  constructor
  · rintro ⟨more, ⟨heq, -⟩ | (⟨heq, -⟩ | ⟨middle, heq, -⟩) | (⟨heq, hrest⟩ | ⟨middle, heq, -⟩)⟩
    · exact .inl heq
    · exact .inr (.inl heq)
    · exact absurd ⟨program, middle, heq.symm⟩ hother
    · exact .inr (.inr ⟨heq, hrest ▸ rfl⟩)
    · exact absurd ⟨other, middle, heq.symm⟩ hprogram
  · rintro (heq | heq | ⟨heq, hrest⟩)
    · exact ⟨rest, .inl ⟨heq, rfl⟩⟩
    · exact ⟨'_' :: rest, .inr (.inl (.underscore heq rfl))⟩
    · obtain ⟨more, hmore⟩ := List.head?_eq_some_iff.mp hrest
      exact ⟨more, .inr (.inr (.underscore heq hmore))⟩

/-- **Which artifacts pass for those of a program.** -/
theorem belongsTo_fileName_iff {program other : String}
    (hprogram : ¬ separator <:+: (sanitize program).toList)
    (hother : ¬ separator <:+: (sanitize other).toList) (function : String) (epoch : Nat) :
    belongsTo program (Text.bytes (fileName other function epoch)) = true ↔
      (sanitize program).toList = (sanitize other).toList ∨
        (sanitize other).toList = (sanitize program).toList ++ ['_'] ∨
        ((sanitize program).toList = (sanitize other).toList ++ ['_'] ∧
          ((sanitize function).toList ++ separator).head? = some '_') := by
  rw [belongsTo_iff, Text.lossy_bytes, toList_fileName]
  simp only [List.append_assoc]
  rw [← List.append_assoc (sanitize other).toList, prefix_join_iff hprogram hother]
  simp [separator]

end Artifact

open Artifact (separator sanitize)

/-- The name under which the functions of a binary are filed, as text. -/
def Path.program (binary : Path) : List Char :=
  (sanitize binary.fileNameText).toList

/-- Binaries whose artifacts can be told apart by their names: their sanitised names differ, hold no
separator, and none of them is another one with an underscore behind it. -/
structure NamesApart (binaries : List Path) : Prop where
  nodup : (binaries.map Path.program).Nodup
  noSeparator : ∀ binary ∈ binaries, ¬ separator <:+: binary.program
  noUnderscore : ∀ binary ∈ binaries, ∀ other ∈ binaries, other.program ≠ binary.program ++ ['_']

instance (binaries : List Path) : Decidable (NamesApart binaries) :=
  decidable_of_iff
    ((binaries.map Path.program).Nodup ∧ (∀ binary ∈ binaries, ¬ separator <:+: binary.program) ∧
      ∀ binary ∈ binaries, ∀ other ∈ binaries, other.program ≠ binary.program ++ ['_'])
    ⟨fun ⟨h₁, h₂, h₃⟩ => ⟨h₁, h₂, h₃⟩, fun ⟨h₁, h₂, h₃⟩ => ⟨h₁, h₂, h₃⟩⟩

variable {σ : Type} {setting : Headless.Setting σ} {binaries : List Path}

namespace Batch

open Headless

theorem getElem?_of_mem_jobsOf {tree : FileTree} {job : Job}
    (h : job ∈ Pool.jobsOf (assign tree binaries)) : binaries[job.place]? = some job.binary := by
  rw [← map_fst_assign tree binaries, List.getElem?_map, mem_jobsOf.mp h]
  rfl

/-- **No artifact of a job passes for one of another job** if the names are apart. -/
theorem apart_jobsOf (hnames : NamesApart binaries) :
    Drive.Apart setting (Pool.jobsOf (assign setting.tree binaries)) := by
  intro job hjob other hother hne name hname
  have hplace := getElem?_of_mem_jobsOf hjob
  have hplace' := getElem?_of_mem_jobsOf hother
  have hmem := List.mem_of_getElem? hplace
  have hmem' := List.mem_of_getElem? hplace'
  have hdiffer : job.binary.program ≠ other.binary.program := by
    intro heq
    have hprograms : (binaries.map Path.program)[job.place]? =
        (binaries.map Path.program)[other.place]? := by
      rw [List.getElem?_map, List.getElem?_map, hplace, hplace', Option.map_some, heq,
        Option.map_some]
    have hlt : job.place < (binaries.map Path.program).length := by
      rw [List.length_map]
      exact (List.getElem?_eq_some_iff.mp hplace).1
    have hplaces : job.place = other.place := (List.getElem?_inj hlt hnames.nodup).mp hprograms
    rw [hplaces, hplace', Option.some_inj] at hplace
    exact hne (Job.mk.injEq .. ▸ ⟨hplaces.symm, hplace⟩)
  obtain ⟨⟨function, epoch⟩, -, rfl⟩ := List.mem_map.mp hname
  rw [Bool.eq_false_iff, ne_eq, Artifact.belongsTo_fileName_iff (hnames.noSeparator _ hmem)
    (hnames.noSeparator _ hmem')]
  rintro (heq | heq | ⟨heq, -⟩)
  · exact hdiffer heq
  · exact hnames.noUnderscore _ hmem _ hmem' heq
  · exact hnames.noUnderscore _ hmem' _ hmem heq

end Batch

/-! ## What a binary comes to by its own run -/

namespace Headless

theorem preparation_ne_noOutput (scratch output : Path) (program : String) :
    preparation scratch output ≠ .error (.noOutput program) := by
  rw [preparation]
  split
  · simp
  · split
    · simp
    · rw [Export.script]
      cases output.text? with
      | none => simp
      | some directory =>
        dsimp only
        split <;> simp

theorem check_ne_noOutput (result : Except External.Failure External.Output) (program : String) :
    check result ≠ .error (.noOutput program) := by
  rw [check.eq_def]
  split
  · split <;> simp
  · simp
  · simp

namespace Setting

variable {binary : Path}

/-- A run by itself never ends for want of functions. -/
theorem plan_ne_noOutput (setting : Setting σ) (binary : Path) (program : String) :
    (setting.plan binary).outcome ≠ .error (.noOutput program) := by
  rw [plan, planOf]
  split
  · simp
  next scratch files _ =>
    have hne := preparation_ne_noOutput scratch.path setting.output program
    cases hpreparation : preparation scratch.path setting.output with
    | error error =>
      rw [hpreparation] at hne
      simpa using hne
    | ok text =>
      dsimp only
      split
      all_goals
        dsimp only
        exact check_ne_noOutput _ program

/-- **A binary is decompiled if its own run went well and wrote new files**, which are the
functions. -/
theorem ownResult_eq_ok_iff {report : DecompileReport} :
    setting.ownResult binary = .ok report ↔
      (setting.plan binary).outcome = .ok () ∧ setting.newArtifacts binary ≠ 0 ∧
        report = ⟨binary, Digest.Sha256.hex (setting.specimens binary).content,
          setting.newArtifacts binary, ⟨0⟩⟩ := by
  rw [ownResult]
  cases (setting.plan binary).outcome with
  | error error => simp
  | ok => by_cases hzero : setting.newArtifacts binary = 0 <;> simp [hzero, eq_comm]

/-- **A binary is without output exactly if its own run went well and wrote no new file.** -/
theorem ownResult_eq_noOutput_iff :
    setting.ownResult binary = .error (.noOutput binary.fileNameText) ↔
      (setting.plan binary).outcome = .ok () ∧ setting.newArtifacts binary = 0 := by
  have hne := setting.plan_ne_noOutput binary binary.fileNameText
  rw [ownResult]
  cases hplan : (setting.plan binary).outcome with
  | error error =>
    rw [hplan] at hne
    simpa using hne
  | ok => by_cases hzero : setting.newArtifacts binary = 0 <;> simp [hzero]

end Setting

end Headless

/-! ## Pools -/

namespace Batch

open Headless

/-- An outcome is known beforehand of binaries that cannot be read and of copies. -/
theorem isCopy_of_mem_assignFrom {tree : FileTree} {seen : List (String × Path)}
    {item : Path × Option BinaryOutcome} (h : item ∈ assignFrom tree seen binaries) :
    item.2 = none ∨ isCopy item = true ∨ ∃ cause, tree.read item.1 = .error cause := by
  induction binaries generalizing seen with
  | nil => cases h
  | cons first rest ih =>
    rw [assignFrom] at h
    split at h
    next cause hread =>
      obtain rfl | hmem := List.mem_cons.mp h
      · exact .inr (.inr ⟨cause, hread⟩)
      · exact ih hmem
    next content hread =>
      dsimp only at h
      split at h
      · obtain rfl | hmem := List.mem_cons.mp h
        · exact .inr (.inl rfl)
        · exact ih hmem
      · obtain rfl | hmem := List.mem_cons.mp h
        · exact .inl rfl
        · exact ih hmem

/-- Every binary is a job if all can be read and no two are alike. -/
theorem assign_eq_map {tree : FileTree} (hread : ∀ binary ∈ binaries, ∃ content,
    tree.read binary = .ok content) (hdistinct : Distinct tree binaries) :
    assign tree binaries = binaries.map fun binary => (binary, none) := by
  have hnone : ∀ item ∈ assign tree binaries, item.2 = none := by
    intro item hitem
    have hbinary : item.1 ∈ binaries := by
      have hmem := List.mem_map_of_mem (f := Prod.fst) hitem
      rwa [map_fst_assign] at hmem
    obtain hnone | hcopy | ⟨cause, herror⟩ := isCopy_of_mem_assignFrom hitem
    · exact hnone
    · rw [(forall_isCopy_assign_iff binaries).mpr hdistinct item hitem] at hcopy
      cases hcopy
    · obtain ⟨content, hok⟩ := hread item.1 hbinary
      cases hok.symm.trans herror
  conv_rhs => rw [← map_fst_assign tree binaries, List.map_map]
  refine (List.map_id _).symm.trans (List.map_congr_left fun item hitem => ?_)
  exact Prod.ext rfl (hnone item hitem)

theorem outcomeOf_eq_decompiled_iff {result : Except DecompileError DecompileReport}
    {report : DecompileReport} : outcomeOf result = .decompiled report ↔ result = .ok report := by
  cases result <;> simp [outcomeOf]

theorem outcomeOf_eq_failed_iff {result : Except DecompileError DecompileReport}
    {error : DecompileError} : outcomeOf result = .failed error ↔ result = .error error := by
  cases result <;> simp [outcomeOf]

/-- What becomes of a binary that is decompiled alone, in the world before any work. -/
def alone (setting : Setting σ) (binary : Path) : BinaryReport :=
  (decompileOne (setting.analyzer.decompiler setting.launcher) setting.output binary
    setting.world).1.timeless

theorem alone_eq (hvalid : setting.Valid binaries) {binary : Path} (hbinary : binary ∈ binaries) :
    alone setting binary = ⟨binary, outcomeOf (setting.ownResult binary)⟩ := by
  rw [← timeless_decompile hvalid hbinary, ← timeless_outcomeOf]
  rfl

theorem map_binary_jobsOf (binaries : List Path) :
    (Pool.jobsOf (binaries.map fun binary => (binary, none))).map Job.binary = binaries := by
  rw [Pool.jobsOf]
  generalize 0 = place
  induction binaries generalizing place with
  | nil => rfl
  | cons binary rest ih =>
    rw [List.map_cons, List.zipIdx_cons, List.filterMap_cons]
    exact congrArg (binary :: ·) (ih (place + 1))

namespace Drive

/-- **Every binary comes to what it comes to alone.** For binaries that can be read, of which no two
are alike and whose names are apart, and for any number of workers: no run goes on for ever, some
run stops, and where one stops, every binary is reported in its place with the outcome that it has
when it is decompiled alone. It is decompiled if its own run went well and wrote new files, which
are its functions, and it is without output exactly if that run went well and wrote none. -/
theorem isolated_of_every_schedule (hvalid : setting.Valid binaries)
    (hdistinct : Distinct setting.tree binaries) (hnames : NamesApart binaries) (workers : Nat) :
    (∀ run : Nat → Drive σ, run 0 = Drive.start workers binaries setting.world →
      ¬ ∀ n, Drive.Next setting.analyzer setting.launcher setting.output (run n) (run (n + 1))) ∧
    (∃ drive, Reaches setting (Drive.start workers binaries setting.world) drive ∧
      Stuck setting drive) ∧
    (∀ drive, Reaches setting (Drive.start workers binaries setting.world) drive →
      Stuck setting drive →
        (drive.pool.report binaries).binaries.map BinaryReport.timeless =
          binaries.map (alone setting)) ∧
    ∀ binary ∈ binaries,
      (∀ functions, (∃ report, (alone setting binary).outcome = .decompiled report ∧
          report.functions = functions) ↔
        (setting.plan binary).outcome = .ok () ∧ setting.newArtifacts binary ≠ 0 ∧
          functions = setting.newArtifacts binary) ∧
      ((alone setting binary).outcome = .failed (.noOutput binary.fileNameText) ↔
        (setting.plan binary).outcome = .ok () ∧ setting.newArtifacts binary = 0) := by
  have hassign : assign setting.tree binaries = binaries.map fun binary => (binary, none) := by
    refine assign_eq_map (fun binary hbinary => ?_) hdistinct
    obtain ⟨location, executable, hentry, -⟩ := hvalid.readable binary hbinary
    exact ⟨(setting.specimens binary).content, by rw [FileTree.read, hentry]; rfl⟩
  have hjobs : (Pool.jobsOf (assign setting.tree binaries)).map Job.binary = binaries := by
    rw [hassign, map_binary_jobsOf]
  have hvalid' : setting.Valid ((Pool.jobsOf (assign setting.tree binaries)).map Job.binary) := by
    rwa [hjobs]
  have hapart : Apart setting (Pool.jobsOf (assign setting.tree binaries)) := apart_jobsOf hnames
  refine ⟨fun run hstart => not_forall_next hvalid' hapart hstart,
    (kept_start hvalid').exists_reaches_stuck hvalid' hapart, fun drive hreaches hstuck => ?_,
    fun binary hbinary => ?_⟩
  · rw [(kept_of_reaches hvalid' hapart hreaches).report hstuck, hassign, expectedOf, List.map_map]
    refine List.map_congr_left fun binary hbinary => ?_
    rw [alone_eq hvalid hbinary]
    rfl
  · rw [alone_eq hvalid hbinary]
    simp only [outcomeOf_eq_decompiled_iff, outcomeOf_eq_failed_iff]
    refine ⟨fun functions => ?_, Setting.ownResult_eq_noOutput_iff⟩
    simp only [Setting.ownResult_eq_ok_iff]
    constructor
    · rintro ⟨report, ⟨hrun, hnew, rfl⟩, rfl⟩
      exact ⟨hrun, hnew, rfl⟩
    · rintro ⟨hrun, hnew, rfl⟩
      exact ⟨_, ⟨hrun, hnew, rfl⟩, rfl⟩

/-- Two binaries with names apart, of which one has two functions and the other none. -/
def pair : Folder :=
  [("a", ["f", "_g"]), ("b", [])]

/-- These binaries and two workers. -/
theorem isolated_of_every_schedule_pair :
    pair.setting.Valid pair.binaries ∧ Distinct pair.tree pair.binaries ∧
    NamesApart pair.binaries ∧
    (∃ drive, Reaches pair.setting (Drive.start 2 pair.binaries pair.setting.world) drive ∧
      Stuck pair.setting drive) ∧
    (∀ drive, Reaches pair.setting (Drive.start 2 pair.binaries pair.setting.world) drive →
      Stuck pair.setting drive →
        (drive.pool.report pair.binaries).binaries.map BinaryReport.timeless =
          [alone pair.setting (Folder.path "a"), alone pair.setting (Folder.path "b")]) ∧
    (∃ report, (alone pair.setting (Folder.path "a")).outcome = .decompiled report ∧
      report.functions = 2) ∧
    (alone pair.setting (Folder.path "b")).outcome = .failed (.noOutput "b") := by
  have hvalid : pair.setting.Valid pair.binaries :=
    Folder.valid_setting (by decide +kernel) (by decide +kernel) (by decide +kernel)
  have hdistinct : Distinct pair.tree pair.binaries := by decide +kernel
  have hnames : NamesApart pair.binaries := by decide +kernel
  obtain ⟨-, hstops, hreports, halone⟩ :=
    isolated_of_every_schedule hvalid hdistinct hnames 2
  obtain ⟨hfunctions, -⟩ := halone (Folder.path "a") (by decide +kernel)
  obtain ⟨-, hnothing⟩ := halone (Folder.path "b") (by decide +kernel)
  have hb : (Folder.path "b").fileNameText = "b" := by decide +kernel
  rw [hb] at hnothing
  exact ⟨hvalid, hdistinct, hnames, hstops, hreports, (hfunctions 2).mpr (by decide +kernel),
    hnothing.mpr (by decide +kernel)⟩

/-- Two binaries whose functions are exported to the same file, since the name of one has an
underscore more than that of the other. -/
def sharing : Folder :=
  [("a", ["_f"]), ("a_", ["f"])]

/-- A single worker leaves the second one without output. -/
theorem exists_report_sharing :
    ∃ drive, Reaches sharing.setting (Drive.start 1 sharing.binaries sharing.setting.world) drive ∧
      Stuck sharing.setting drive ∧
      (drive.pool.report sharing.binaries).binaries[1]? =
        some ⟨Folder.path "a_", .failed (.noOutput "a_")⟩ := by
  obtain ⟨drive, hreaches, hstuck, hreport⟩ :=
    exists_reaches_decompileAll sharing.setting sharing.binaries
  refine ⟨drive, hreaches, hstuck, ?_⟩
  rw [hreport]
  decide +kernel

/-- Two binaries with such names whose functions are exported to files of their own. -/
def leaking : Folder :=
  [("a", ["g"]), ("a_", ["f"])]

/-- A schedule of two workers in which the second one is done with its binary between the two
listings of the first one. -/
def leakingSchedule : List Mover :=
  [.worker 0, .worker 1, .worker 0, .worker 1, .worker 1, .worker 1, .worker 0, .worker 0,
    .worker 0, .worker 1, .worker 0, .worker 1, .collector, .collector, .worker 0, .worker 1]

/-- In this schedule the first one is reported with the function of the second one as well. -/
theorem exists_report_leaking :
    ∃ drive, Reaches leaking.setting (Drive.start 2 leaking.binaries leaking.setting.world) drive ∧
      Stuck leaking.setting drive ∧
      (drive.pool.report leaking.binaries).binaries[0]? =
        some ⟨Folder.path "a",
          .decompiled ⟨Folder.path "a", Digest.Sha256.hex [0], 2, ⟨0⟩⟩⟩ := by
  have hplay : ((play? leaking.setting leakingSchedule
      (Drive.start 2 leaking.binaries leaking.setting.world)).any fun drive =>
        drive.pool.workers.all (· == .gone) && drive.pool.results.isEmpty &&
          (drive.pool.report leaking.binaries).binaries[0]? ==
            some ⟨Folder.path "a",
              .decompiled ⟨Folder.path "a", Digest.Sha256.hex [0], 2, ⟨0⟩⟩⟩) = true := by
    decide +kernel
  obtain ⟨drive, hdrive, hend⟩ := Option.any_eq_true _ _ |>.mp hplay
  simp only [Bool.and_eq_true, List.all_eq_true, beq_iff_eq, List.isEmpty_iff] at hend
  obtain ⟨⟨hgone, hresults⟩, hreport⟩ := hend
  exact ⟨drive, reaches_of_play? hdrive, stuck_of_left hgone hresults, hreport⟩

/-- **A binary need not come to what it comes to alone** if its name is another one with an
underscore behind it, although the names differ and hold no separator: even a single worker may
leave it without output, and two workers may count its functions as those of the other binary.
Alone, each of the two binaries has one function. -/
theorem not_isolated_of_underscore :
    (∀ folder ∈ [sharing, leaking], folder.setting.Valid folder.binaries ∧
      Distinct folder.tree folder.binaries ∧ (folder.binaries.map Path.program).Nodup ∧
      (∀ binary ∈ folder.binaries, ¬ separator <:+: binary.program) ∧
      ∀ binary ∈ folder.binaries, ∃ digest, (alone folder.setting binary).outcome =
        .decompiled ⟨binary, digest, 1, ⟨0⟩⟩) ∧
    (∃ drive, Reaches sharing.setting (Drive.start 1 sharing.binaries sharing.setting.world) drive ∧
      Stuck sharing.setting drive ∧
      (drive.pool.report sharing.binaries).binaries[1]? =
        some ⟨Folder.path "a_", .failed (.noOutput "a_")⟩) ∧
    ∃ drive, Reaches leaking.setting (Drive.start 2 leaking.binaries leaking.setting.world) drive ∧
      Stuck leaking.setting drive ∧
      (drive.pool.report leaking.binaries).binaries[0]? =
        some ⟨Folder.path "a",
          .decompiled ⟨Folder.path "a", Digest.Sha256.hex [0], 2, ⟨0⟩⟩⟩ := by
  have hone : ∀ folder ∈ [sharing, leaking], ∀ binary ∈ folder.binaries,
      (alone folder.setting binary).outcome = .decompiled
        ⟨binary, Digest.Sha256.hex (folder.specimens binary).content, 1, ⟨0⟩⟩ := by
    decide +kernel
  have hvalid : ∀ folder ∈ [sharing, leaking], folder.setting.Valid folder.binaries := by
    intro folder hfolder
    obtain rfl | rfl := List.mem_pair.mp hfolder
    · exact Folder.valid_setting (by decide +kernel) (by decide +kernel) (by decide +kernel)
    · exact Folder.valid_setting (by decide +kernel) (by decide +kernel) (by decide +kernel)
  have hnames : ∀ folder ∈ [sharing, leaking], Distinct folder.tree folder.binaries ∧
      (folder.binaries.map Path.program).Nodup ∧
      ∀ binary ∈ folder.binaries, ¬ separator <:+: binary.program := by
    decide +kernel
  refine ⟨fun folder hfolder => ?_, exists_report_sharing, exists_report_leaking⟩
  obtain ⟨hdistinct, hnodup, hseparator⟩ := hnames folder hfolder
  exact ⟨hvalid folder hfolder, hdistinct, hnodup, hseparator,
    fun binary hbinary => ⟨_, hone folder hfolder binary hbinary⟩⟩

end Drive

end Batch

end FunctionSearch
