import FunctionSearch.Decompiler.Drive
import FunctionSearch.Proofs.Artifact.Component
import FunctionSearch.Proofs.Decompiler.Invoke
import Mathlib.Data.List.Dedup

/-!
# One decompilation among others

A decompilation counts the artifacts of its program before and after its run, in a directory into
which other runs write. As long as the artifacts of the others do not pass for artifacts of its
program, the count is the number of new files that its own run wrote.

* `Setting` is what is there before any work, and what is known of the binaries; `Setting.ownResult`
  is what a binary comes to by its own run.
* `Stage.Fits` says what a decompilation has found out at every stage, and `fits_advance` that every
  step keeps this, whatever the others wrote before it.
* `timeless_decompile`: a binary that is decompiled alone comes to its own result.
-/

namespace FunctionSearch

/-- A report without the time that it took. -/
def DecompileReport.timeless (report : DecompileReport) : DecompileReport :=
  { report with elapsed := ⟨0⟩ }

namespace Headless

open FileTree

/-! ## Counting -/

section Count

variable {tree grown : FileTree} {spot : Location → Prop} {output : Path} {directory : Location}
  {program : String}

/-- The number of files among these names that are new in a directory. -/
def newIn (tree : FileTree) (directory : Location) (names : List Name) : Nat :=
  names.dedup.countP fun name => (tree.at? (directory ++ [name])).isNone

theorem list_grows (hwellFormed : tree.WellFormed) (hgrows : Grows tree spot grown)
    (hspot : Writable tree spot) (houtput : tree.entry? output = .ok (directory, .directory)) :
    grown.list output = .ok (grown.childrenOf directory) := by
  have hdirectory := hgrows.entry? hspot houtput
    (hspot.not_spot (hwellFormed.at?_of_entry? houtput) rfl)
  rw [FileTree.list, hdirectory]
  rfl

/-- The artifacts of a program in a tree that grew are those that were there and those written. -/
theorem mem_namesOf_iff (hwellFormed : tree.WellFormed) (hgrows : Grows tree spot grown)
    (hspot : Writable tree spot) (houtput : tree.entry? output = .ok (directory, .directory))
    {name : Name} :
    name ∈ Artifact.namesOf grown output program ↔
      Artifact.belongsTo program name = true ∧
        (spot (directory ++ [name]) ∨ (tree.at? (directory ++ [name])).isSome = true) := by
  rw [Artifact.namesOf, list_grows hwellFormed hgrows hspot houtput]
  dsimp only
  rw [List.mem_filter, hgrows.mem_names_iff, and_comm]

theorem nodup_namesOf (hwellFormed : tree.WellFormed) (hgrows : Grows tree spot grown)
    (hspot : Writable tree spot) (houtput : tree.entry? output = .ok (directory, .directory)) :
    (Artifact.namesOf grown output program).Nodup := by
  rw [Artifact.namesOf, list_grows hwellFormed hgrows hspot houtput]
  exact (hgrows.wellFormed.nodup_names directory).filter _

/-- **The difference of two listings is the number of new files**, if the names between them are
those of one run. -/
theorem countNew_eq_newIn {listed : Name → Prop} {before after own : List Name}
    (hnodup : after.Nodup)
    (hbefore : ∀ name, name ∈ before ↔
      listed name ∧ (tree.at? (directory ++ [name])).isSome = true)
    (hafter : ∀ name, name ∈ after ↔
      listed name ∧ (name ∈ own ∨ (tree.at? (directory ++ [name])).isSome = true))
    (hown : ∀ name ∈ own, listed name) :
    countNew before after = newIn tree directory own := by
  rw [countNew, newIn, List.countP_eq_length_filter, List.countP_eq_length_filter]
  refine (List.perm_ext_iff_of_nodup (hnodup.filter _) ((List.nodup_dedup own).filter _)).mpr
    (fun name => ?_) |>.length_eq
  rw [List.mem_filter, List.mem_filter, List.mem_dedup, hafter, Bool.not_eq_true',
    List.contains_eq_mem, decide_eq_false_iff_not, hbefore, Option.isNone_iff_eq_none]
  cases hat : tree.at? (directory ++ [name]) with
  | none =>
    simp only [Option.isSome_none, Bool.false_eq_true, or_false, and_false, not_false_eq_true,
      and_true]
    exact ⟨And.right, fun hmem => ⟨hown name hmem, hmem⟩⟩
  | some entry => simp

end Count

/-! ## Settings -/

variable {σ : Type}

/-- What is there before any work, and what is known of the binaries. -/
structure Setting (σ : Type) where
  analyzer : Headless
  launcher : External.Launcher (World σ)
  output : Path
  /-- The world before any work. -/
  world : World σ
  /-- Where the path of the output directory leads. -/
  directory : Location
  specimens : Path → Specimen

namespace Setting

variable (setting : Setting σ)

/-- The tree before any work. -/
abbrev tree : FileTree :=
  setting.world.files

/-- What the run for a binary comes to. -/
def plan (binary : Path) : Plan :=
  planOf setting.analyzer setting.tree binary setting.output (setting.specimens binary)

/-- The locations that the run for a binary writes to. -/
def Writes (binary : Path) : Location → Prop :=
  Among setting.directory (setting.plan binary).artifacts

/-- The number of new files that the run for a binary writes. -/
def newArtifacts (binary : Path) : Nat :=
  newIn setting.tree setting.directory (setting.plan binary).artifacts

/-- What a binary comes to by its own run. -/
def ownResult (binary : Path) : Except DecompileError DecompileReport :=
  match (setting.plan binary).outcome with
  | .error error => .error error
  | .ok () =>
    if setting.newArtifacts binary = 0 then .error (.noOutput binary.fileNameText)
    else .ok
      { binary := binary
        digest := Digest.Sha256.hex (setting.specimens binary).content
        functions := setting.newArtifacts binary
        elapsed := ⟨0⟩ }

/-- What is relied on when these binaries are decompiled: the tree has the shape of one, the output
directory is there, every binary can be read and stands in no place of an artifact, and the analyzer
exports the functions of each. -/
structure Valid (binaries : List Path) : Prop where
  wellFormed : setting.tree.WellFormed
  leads : setting.tree.entry? setting.output = .ok (setting.directory, .directory)
  readable : ∀ binary ∈ binaries, ∃ location executable,
    setting.tree.entry? binary =
        .ok (location, .file (setting.specimens binary).content ⟨true, executable⟩) ∧
      ∀ other ∈ binaries,
        ¬ Among setting.directory ((setting.specimens other).artifacts other) location
  writable : ∀ binary ∈ binaries,
    Writable setting.tree (Among setting.directory ((setting.specimens binary).artifacts binary))
  exports : ∀ binary ∈ binaries, ∀ scratch files,
    Scratch.create setting.tree setting.analyzer.scratchParent scratchStem = .ok (scratch, files) →
    Exports setting.analyzer setting.launcher binary setting.output setting.directory scratch
      (setting.specimens binary)

variable {setting} {binary : Path} {location : Location}

/-- A run writes the artifacts of its binary or nothing. -/
theorem artifacts_plan (setting : Setting σ) (binary : Path) :
    (setting.plan binary).artifacts = [] ∨
      (setting.plan binary).artifacts = (setting.specimens binary).artifacts binary := by
  rw [plan, planOf]
  split
  · exact .inl rfl
  · split
    · exact .inl rfl
    · dsimp only
      split
      · exact .inr rfl
      · exact .inl rfl

theorem mem_artifacts {name : Name} (h : name ∈ (setting.plan binary).artifacts) :
    name ∈ (setting.specimens binary).artifacts binary := by
  obtain hnil | heq := setting.artifacts_plan binary
  · rw [hnil] at h
    cases h
  · exact heq ▸ h

theorem Writes.among (h : setting.Writes binary location) :
    Among setting.directory ((setting.specimens binary).artifacts binary) location := by
  obtain ⟨name, hname, hlocation⟩ := h
  exact ⟨name, mem_artifacts hname, hlocation⟩

theorem writes_child_iff {name : Name} :
    setting.Writes binary (setting.directory ++ [name]) ↔
      name ∈ (setting.plan binary).artifacts := by
  constructor
  · rintro ⟨other, hother, heq⟩
    obtain rfl : name = other := by simpa using heq
    exact hother
  · intro hname
    exact ⟨name, hname, rfl⟩

/-- Where no scratch directory can be made, nothing is written. -/
theorem not_writes_of_error {cause : IoError}
    (h : Scratch.create setting.tree setting.analyzer.scratchParent scratchStem = .error cause) :
    ¬ setting.Writes binary location := by
  rw [Writes, plan, planOf, h]
  exact among_nil location

/-- The artifacts of a binary belong to its program. -/
theorem belongsTo_of_mem {name : Name} (h : name ∈ (setting.plan binary).artifacts) :
    Artifact.belongsTo binary.fileNameText name = true := by
  obtain ⟨⟨function, epoch⟩, -, rfl⟩ := List.mem_map.mp (mem_artifacts h)
  exact Artifact.belongsTo_fileName ..

/-! ### Spots that runs write to -/

namespace Valid

variable {binaries : List Path} {spot : Location → Prop} (h : setting.Valid binaries)
  (hspot : ∀ location, spot location → ∃ other ∈ binaries, setting.Writes other location)

include h hspot

theorem writable_spot : FileTree.Writable setting.tree spot := by
  intro location hmem
  obtain ⟨other, hother, hwrites⟩ := hspot location hmem
  exact h.writable other hother location hwrites.among

omit h in
theorem clear_spot : Scratch.Clear scratchStem spot := by
  intro location n hmem hlast
  obtain ⟨other, -, hwrites⟩ := hspot location hmem
  obtain ⟨name, hname, rfl⟩ := hwrites.among
  rw [List.getLast?_concat, Option.some.injEq] at hlast
  exact Specimen.ne_nameOf hname n hlast

omit h in
theorem not_spot_of_error {cause : IoError}
    (hcreate : Scratch.create setting.tree setting.analyzer.scratchParent scratchStem =
      .error cause) (location : Location) : ¬ spot location := by
  intro hmem
  obtain ⟨other, -, hwrites⟩ := hspot location hmem
  exact not_writes_of_error hcreate hwrites

/-- A binary that is worked on stays where it is. -/
theorem exists_file (hbinary : binary ∈ binaries) : ∃ location executable,
    setting.tree.entry? binary =
        .ok (location, .file (setting.specimens binary).content ⟨true, executable⟩) ∧
      ¬ spot location := by
  obtain ⟨location, executable, hentry, hplace⟩ := h.readable binary hbinary
  refine ⟨location, executable, hentry, fun hmem => ?_⟩
  obtain ⟨other, hother, hwrites⟩ := hspot location hmem
  exact hplace other hother hwrites.among

end Valid

end Setting

/-! ## Stages -/

namespace Stage

/-- Whether the analyzer has run. -/
def HasRun : Stage → Prop
  | .begun | .listed .. => False
  | .ran .. | .done _ => True

/-- The number of steps that are left. -/
def left : Stage → Nat
  | .begun => 3
  | .listed .. => 2
  | .ran .. => 1
  | .done _ => 0

/-- What the decompilation of a binary has found out at a stage. -/
inductive Fits (setting : Setting σ) (binary : Path) : Stage → Prop
  | begun : Fits setting binary .begun
  | listed {since : Duration} {before : List Name}
    (hbefore : ∀ name, name ∈ before ↔
      Artifact.belongsTo binary.fileNameText name = true ∧
        (setting.tree.at? (setting.directory ++ [name])).isSome = true) :
    Fits setting binary
      (.listed (Digest.Sha256.hex (setting.specimens binary).content) since before)
  | ran {since : Duration} {before : List Name}
    (hbefore : ∀ name, name ∈ before ↔
      Artifact.belongsTo binary.fileNameText name = true ∧
        (setting.tree.at? (setting.directory ++ [name])).isSome = true)
    (houtcome : (setting.plan binary).outcome = .ok ()) :
    Fits setting binary
      (.ran (Digest.Sha256.hex (setting.specimens binary).content) since before)
  | done {result : Except DecompileError DecompileReport}
    (hresult : result.map DecompileReport.timeless = setting.ownResult binary) :
    Fits setting binary (.done result)

/-- Spots that others may have written to: none of them passes for an artifact of the binary. -/
structure Foreign (setting : Setting σ) (binaries : List Path) (binary : Path)
    (others : Location → Prop) : Prop where
  written : ∀ location, others location → ∃ other ∈ binaries, setting.Writes other location
  foreign : ∀ name, others (setting.directory ++ [name]) →
    Artifact.belongsTo binary.fileNameText name = false

section Advance

variable {setting : Setting σ} {binaries : List Path} {binary : Path} {others : Location → Prop}
  {world : World σ} (hvalid : setting.Valid binaries) (hbinary : binary ∈ binaries)
  (hothers : Foreign setting binaries binary others)

include hvalid hothers

/-- The first listing finds what was there before any work. -/
theorem mem_before_iff (hgrows : Grows setting.tree others world.files) (name : Name) :
    name ∈ Artifact.namesOf world.files setting.output binary.fileNameText ↔
      Artifact.belongsTo binary.fileNameText name = true ∧
        (setting.tree.at? (setting.directory ++ [name])).isSome = true := by
  rw [mem_namesOf_iff hvalid.wellFormed hgrows (hvalid.writable_spot hothers.written)
    hvalid.leads]
  refine and_congr_right fun hbelongs => or_iff_right fun hmem => ?_
  rw [hothers.foreign name hmem] at hbelongs
  cases hbelongs

include hbinary

/-- The first step lists what was there before any work. -/
theorem fits_begun (hgrows : Grows setting.tree others world.files) :
    let next := setting.analyzer.advance setting.launcher binary setting.output .begun world
    next.1.Fits setting binary ∧ ¬ next.1.HasRun ∧ next.2 = world := by
  obtain ⟨location, executable, hentry, hplace⟩ := hvalid.exists_file hothers.written hbinary
  obtain ⟨hread, hfile⟩ := hgrows.read (hvalid.writable_spot hothers.written) hentry hplace
  have hnext : setting.analyzer.advance setting.launcher binary setting.output .begun world =
      (.listed (Digest.Sha256.hex (setting.specimens binary).content) world.clock
        (Artifact.namesOf world.files setting.output binary.fileNameText), world) := by
    simp only [advance, hread, hfile, Bool.not_true, Bool.false_eq_true, if_false]
  rw [hnext]
  exact ⟨.listed (mem_before_iff hvalid hothers hgrows), id, rfl⟩

/-- The second step runs the analyzer. -/
theorem fits_listed {digest : String} {since : Duration} {before : List Name}
    (hfits : Fits setting binary (.listed digest since before))
    (hgrows : Grows setting.tree others world.files) :
    let next := setting.analyzer.advance setting.launcher binary setting.output
      (.listed digest since before) world
    next.1.Fits setting binary ∧ next.1.HasRun ∧
      Grows setting.tree (fun location => others location ∨ setting.Writes binary location)
        next.2.files := by
  obtain ⟨location, executable, hentry, hplace⟩ := hvalid.exists_file hothers.written hbinary
  obtain ⟨houtcome, hgrown⟩ := invoke_grows hvalid.wellFormed hgrows
    (hvalid.writable_spot hothers.written) (Setting.Valid.clear_spot hothers.written)
    (fun cause hcreate => Setting.Valid.not_spot_of_error hothers.written hcreate) hentry hplace
    hvalid.leads (hvalid.writable binary hbinary) (hvalid.exports binary hbinary)
  cases hfits with
  | listed hbefore =>
    rw [advance]
    generalize setting.analyzer.invoke setting.launcher binary setting.output _ world = run
      at houtcome hgrown
    obtain ⟨outcome, after⟩ := run
    cases outcome with
    | error error =>
      refine ⟨.done ?_, trivial, hgrown⟩
      rw [Setting.ownResult, Setting.plan, ← houtcome]
      rfl
    | ok => exact ⟨.ran hbefore houtcome.symm, trivial, hgrown⟩

omit hothers in
/-- The third step counts the new artifacts, which are those of the run. -/
theorem fits_ran {digest : String} {since : Duration} {before : List Name}
    (hothers : Foreign setting binaries binary others)
    (hfits : Fits setting binary (.ran digest since before))
    (hgrows : Grows setting.tree
      (fun location => others location ∨ setting.Writes binary location) world.files) :
    let next := setting.analyzer.advance setting.launcher binary setting.output
      (.ran digest since before) world
    next.1.Fits setting binary ∧ next.1.HasRun ∧ next.2 = world := by
  have hwritten : ∀ location, others location ∨ setting.Writes binary location →
      ∃ other ∈ binaries, setting.Writes other location := by
    rintro location (hmem | hmem)
    · exact hothers.written location hmem
    · exact ⟨binary, hbinary, hmem⟩
  have hspot := hvalid.writable_spot hwritten
  cases hfits with
  | ran hbefore houtcome =>
    have hcount : countNew before
        (Artifact.namesOf world.files setting.output binary.fileNameText) =
        setting.newArtifacts binary := by
      refine countNew_eq_newIn (nodup_namesOf hvalid.wellFormed hgrows hspot hvalid.leads) hbefore
        (fun name => ?_) fun name => Setting.belongsTo_of_mem
      rw [mem_namesOf_iff hvalid.wellFormed hgrows hspot hvalid.leads, Setting.writes_child_iff]
      refine and_congr_right fun hbelongs => or_congr_left (or_iff_right fun hmem => ?_)
      rw [hothers.foreign name hmem] at hbelongs
      cases hbelongs
    rw [advance, hcount]
    dsimp only
    split
    next hzero =>
      refine ⟨.done ?_, trivial, rfl⟩
      rw [Setting.ownResult, houtcome]
      exact (if_pos hzero).symm
    next hzero =>
      refine ⟨.done ?_, trivial, rfl⟩
      rw [Setting.ownResult, houtcome]
      exact (if_neg hzero).symm

/-- **Every step of a decompilation keeps what it has found out**, whatever others wrote before it,
and nothing but the run writes anything. -/
theorem fits_advance {stage : Stage} (hfits : stage.Fits setting binary)
    (hgrows : Grows setting.tree
      (fun location => others location ∨ stage.HasRun ∧ setting.Writes binary location)
      world.files) :
    let next := setting.analyzer.advance setting.launcher binary setting.output stage world
    next.1.Fits setting binary ∧
      Grows setting.tree
        (fun location => others location ∨ next.1.HasRun ∧ setting.Writes binary location)
        next.2.files := by
  cases stage with
  | begun =>
    have hbefore : Grows setting.tree others world.files := hgrows.congr (by simp [HasRun])
    obtain ⟨hnext, hrun, hworld⟩ := fits_begun hvalid hbinary hothers hbefore
    refine ⟨hnext, ?_⟩
    rw [hworld]
    exact hbefore.congr (by simp [hrun])
  | listed digest since before =>
    have hbefore : Grows setting.tree others world.files := hgrows.congr (by simp [HasRun])
    obtain ⟨hnext, hrun, hgrown⟩ := fits_listed hvalid hbinary hothers hfits hbefore
    exact ⟨hnext, hgrown.congr (by simp [hrun])⟩
  | ran digest since before =>
    have hafter : Grows setting.tree
        (fun location => others location ∨ setting.Writes binary location) world.files :=
      hgrows.congr (by simp [HasRun])
    obtain ⟨hnext, hrun, hworld⟩ := fits_ran hvalid hbinary hothers hfits hafter
    refine ⟨hnext, ?_⟩
    rw [hworld]
    exact hafter.congr (by simp [hrun])
  | done result => exact ⟨hfits, hgrows⟩

end Advance

/-- Every step of a decompilation that is not done leaves less to do. -/
theorem left_advance_lt (analyzer : Headless) (launcher : External.Launcher (World σ))
    (binary output : Path) {stage : Stage} (world : World σ)
    (hstage : ∀ result, stage ≠ .done result) :
    (analyzer.advance launcher binary output stage world).1.left < stage.left := by
  cases stage with
  | begun =>
    rw [advance]
    split
    · exact Nat.zero_lt_succ _
    · split
      · exact Nat.zero_lt_succ _
      · exact Nat.lt_succ_self _
  | listed digest since before =>
    rw [advance]
    split
    · exact Nat.zero_lt_succ _
    · exact Nat.lt_succ_self _
  | ran digest since before =>
    rw [advance]
    dsimp only
    split <;> exact Nat.zero_lt_succ _
  | done result => exact absurd rfl (hstage result)

end Stage

/-- **A binary that is decompiled alone comes to its own result.** -/
theorem timeless_decompile {setting : Setting σ} {binaries : List Path} {binary : Path}
    (hvalid : setting.Valid binaries) (hbinary : binary ∈ binaries) :
    (setting.analyzer.decompile setting.launcher binary setting.output setting.world).1.map
      DecompileReport.timeless = setting.ownResult binary := by
  have hothers : Stage.Foreign setting binaries binary fun _ => False :=
    ⟨fun _ hmem => hmem.elim, fun _ hmem => hmem.elim⟩
  have hstart : Grows setting.tree
      (fun location => False ∨ Stage.begun.HasRun ∧ setting.Writes binary location)
      setting.world.files :=
    hvalid.wellFormed.grows.congr (by simp [Stage.HasRun])
  obtain ⟨hfirst, hgrown⟩ := Stage.fits_advance hvalid hbinary hothers .begun hstart
  obtain ⟨hsecond, hgrown⟩ := Stage.fits_advance hvalid hbinary hothers hfirst hgrown
  obtain ⟨hthird, -⟩ := Stage.fits_advance hvalid hbinary hothers hsecond hgrown
  rw [advance_begun] at hthird
  cases hthird with
  | done hresult => exact hresult

end Headless

end FunctionSearch
