import FunctionSearch.Decompiler.Headless
import FunctionSearch.Proofs.Artifact.Name
import FunctionSearch.Proofs.Files.Scratch

/-!
# One run of the analyzer

A run makes a scratch directory, puts the export script into it, starts the analyzer and discards
the directory. What the analyzer does is taken as given, as far as it is relied on: it exports the
functions of a binary as files in the output directory, and changes nothing else outside the scratch
directory (`Exports`).

* `preparation` says what becomes of the preparation, which is the same in every tree
  (`prepare_eq`).
* `Plan` and `planOf` say what comes of a run, and which artifacts it leaves.
* `invoke_grows`: a run in a tree that files were written into comes to what it was planned to, and
  leaves its artifacts and no other trace.
-/

namespace FunctionSearch.Headless

open FileTree

/-! ## Preparation -/

theorem canName_script : CanName (Text.bytes "script") := by decide

theorem canName_project : CanName (Text.bytes "project") := by decide

theorem canName_scriptName : CanName (Text.bytes Export.scriptName) := by decide

/-- The export script that is prepared for a run in a scratch directory, or why none is: a path is
too long, or there is no script for the output directory. -/
def preparation (scratch output : Path) : Except DecompileError String :=
  if pathLimit ≤ (scriptDirectory scratch).bytes.length then
    .error (.io (scriptDirectory scratch) .nameTooLong)
  else if pathLimit ≤ (projectDirectory scratch).bytes.length then
    .error (.io (projectDirectory scratch) .nameTooLong)
  else match Export.script output with
    | .error error => .error error
    | .ok text =>
      let path := (scriptDirectory scratch).sub Export.scriptName
      if pathLimit ≤ path.bytes.length then .error (.io path .nameTooLong) else .ok text

/-- The tree with the directory for the script in the scratch directory at a location. -/
def withScript (tree : FileTree) (location : Location) : FileTree :=
  tree.put (location ++ [Text.bytes "script"]) .directory

/-- The tree with the directory of the project as well. -/
def withProject (tree : FileTree) (location : Location) : FileTree :=
  (withScript tree location).put (location ++ [Text.bytes "project"]) .directory

/-- The tree with the script as well. -/
def prepared (tree : FileTree) (location : Location) (text : String) : FileTree :=
  (withProject tree location).put
    (location ++ [Text.bytes "script"] ++ [Text.bytes Export.scriptName])
    (.file (Text.bytes text) ⟨true, false⟩)

section Prepared

variable {tree : FileTree} {scratch output : Path} {location : Location}

@[simp] theorem at?_withScript (tree : FileTree) (location other : Location) :
    (withScript tree location).at? other =
      if other = location ++ [Text.bytes "script"] then some .directory else tree.at? other :=
  at?_put (List.concat_ne_nil _ _) _ _

@[simp] theorem at?_withProject (tree : FileTree) (location other : Location) :
    (withProject tree location).at? other =
      if other = location ++ [Text.bytes "project"] then some .directory
      else (withScript tree location).at? other :=
  at?_put (List.concat_ne_nil _ _) _ _

@[simp] theorem at?_prepared (tree : FileTree) (location : Location) (text : String)
    (other : Location) :
    (prepared tree location text).at? other =
      if other = location ++ [Text.bytes "script"] ++ [Text.bytes Export.scriptName] then
        some (.file (Text.bytes text) ⟨true, false⟩)
      else (withProject tree location).at? other :=
  at?_put (List.concat_ne_nil _ _) _ _

@[simp] theorem workingDirectory_prepared (tree : FileTree) (location : Location) (text : String) :
    (prepared tree location text).workingDirectory = tree.workingDirectory := by
  rw [prepared, withProject, withScript, workingDirectory_put, workingDirectory_put,
    workingDirectory_put]

/-- Preparation changes nothing outside the scratch directory. -/
theorem at?_prepared_of_not_below {text : String} {other : Location}
    (h : ¬ location <+: other) : (prepared tree location text).at? other = tree.at? other := by
  have hne : ∀ below, other ≠ location ++ below := by
    rintro below rfl
    exact h (List.prefix_append _ _)
  rw [at?_prepared, if_neg (List.append_assoc location _ _ ▸ hne _), at?_withProject,
    if_neg (hne _), at?_withScript, if_neg (hne _)]

theorem script_ne_project (location : Location) :
    location ++ [Text.bytes "script"] ≠ location ++ [Text.bytes "project"] := by
  have hne : Text.bytes "script" ≠ Text.bytes "project" := by decide
  simpa using hne

variable (hempty : ∀ below, below ≠ [] → tree.at? (location ++ below) = none)

include hempty

theorem vacant_project :
    (withScript tree location).at? (location ++ [Text.bytes "project"]) = none := by
  rw [at?_withScript, if_neg (script_ne_project location).symm]
  exact hempty _ (List.cons_ne_nil _ _)

theorem vacant_scriptName :
    (withProject tree location).at?
      (location ++ [Text.bytes "script"] ++ [Text.bytes Export.scriptName]) = none := by
  rw [at?_withProject, at?_withScript, if_neg (by simp), if_neg (by simp), List.append_assoc]
  exact hempty _ (List.cons_ne_nil _ _)

/-- What is prepared has the shape of a tree. -/
theorem wellFormed_prepared (hwellFormed : tree.WellFormed)
    (hlocation : tree.at? location = some .directory) (text : String) :
    (prepared tree location text).WellFormed := by
  have hscript : (withScript tree location).WellFormed := by
    refine hwellFormed.put (List.concat_ne_nil _ _) ?_ ?_ _
    · rw [List.dropLast_concat]
      exact hlocation
    · rw [hempty _ (List.cons_ne_nil _ _)]
      rfl
  have hproject : (withProject tree location).WellFormed := by
    refine hscript.put (List.concat_ne_nil _ _) ?_ ?_ _
    · rw [List.dropLast_concat, at?_withScript]
      split
      · rfl
      · exact hlocation
    · rw [vacant_project hempty]
      rfl
  refine hproject.put (List.concat_ne_nil _ _) ?_ ?_ _
  · rw [List.dropLast_concat, at?_withProject, if_neg (script_ne_project location), at?_withScript,
      if_pos rfl]
  · rw [vacant_scriptName hempty]
    rfl

variable (hleads : Leads tree scratch location)

include hleads

theorem leads_withScript :
    Leads (withScript tree location) scratch location ∧
      Leads (withScript tree location) (scriptDirectory scratch)
        (location ++ [Text.bytes "script"]) := by
  have hput : Leads (withScript tree location) scratch location := by
    refine hleads.put (List.concat_ne_nil _ _) (by simp) ?_ _
    rw [hempty _ (List.cons_ne_nil _ _)]
    rfl
  refine ⟨hput, hput.child canName_script ?_⟩
  rw [at?_withScript, if_pos rfl]

theorem leads_withProject :
    Leads (withProject tree location) scratch location ∧
      Leads (withProject tree location) (scriptDirectory scratch)
        (location ++ [Text.bytes "script"]) := by
  obtain ⟨hscratch, hscript⟩ := leads_withScript hempty hleads
  have hwritable : isWritable
      ((withScript tree location).at? (location ++ [Text.bytes "project"])) = true := by
    rw [vacant_project hempty]
    rfl
  exact ⟨hscratch.put (List.concat_ne_nil _ _) (by simp) hwritable _,
    hscript.put (List.concat_ne_nil _ _) (script_ne_project location).symm hwritable _⟩

theorem leads_prepared (text : String) :
    Leads (prepared tree location text) scratch location ∧
      Leads (prepared tree location text) (scriptDirectory scratch)
        (location ++ [Text.bytes "script"]) := by
  obtain ⟨hscratch, hscript⟩ := leads_withProject hempty hleads
  have hwritable : isWritable ((withProject tree location).at?
      (location ++ [Text.bytes "script"] ++ [Text.bytes Export.scriptName])) = true := by
    rw [vacant_scriptName hempty]
    rfl
  exact ⟨hscratch.put (List.concat_ne_nil _ _) (by simp) hwritable _,
    hscript.put (List.concat_ne_nil _ _) (by simp) hwritable _⟩

/-- **Preparation does not depend on the tree** in which the scratch directory is made. -/
theorem prepare_eq :
    prepare tree scratch output =
      (preparation scratch output).map (prepared tree location) := by
  have hscript : tree.makeDirectories (scriptDirectory scratch) =
      if pathLimit ≤ (scriptDirectory scratch).bytes.length then .error .nameTooLong
      else .ok (withScript tree location) :=
    hleads.makeDirectories canName_script (hempty _ (List.cons_ne_nil _ _))
  have hproject : (withScript tree location).makeDirectories (projectDirectory scratch) =
      if pathLimit ≤ (projectDirectory scratch).bytes.length then .error .nameTooLong
      else .ok (withProject tree location) :=
    (leads_withScript hempty hleads).1.makeDirectories canName_project (vacant_project hempty)
  have hwrite : ∀ text, (withProject tree location).write
      ((scriptDirectory scratch).sub Export.scriptName) (Text.bytes text) =
      if pathLimit ≤ ((scriptDirectory scratch).sub Export.scriptName).bytes.length then
        .error .nameTooLong
      else .ok (prepared tree location text) := fun text =>
    (leads_withProject hempty hleads).2.write canName_scriptName (vacant_scriptName hempty) _
  unfold prepare prepareDirectory preparation Export.writeScript Export.putScript
  rw [hscript]
  by_cases hlong : pathLimit ≤ (scriptDirectory scratch).bytes.length
  · simp only [if_pos hlong]
    rfl
  simp only [if_neg hlong, Except.mapError, bind, Except.bind, hproject]
  by_cases hlong : pathLimit ≤ (projectDirectory scratch).bytes.length
  · simp only [if_pos hlong]
    rfl
  simp only [if_neg hlong]
  cases Export.script output with
  | error error => rfl
  | ok text =>
    simp only [hwrite]
    by_cases hlong :
        pathLimit ≤ ((scriptDirectory scratch).sub Export.scriptName).bytes.length
    · simp only [if_pos hlong]
      rfl
    · simp only [if_neg hlong]
      rfl

end Prepared

/-! ## What the analyzer does -/

/-- The locations of these names in a directory. -/
def Among (directory : Location) (names : List Name) (location : Location) : Prop :=
  ∃ name ∈ names, location = directory ++ [name]

/-- What is in a binary and what the analyzer makes of it: how it ends, and the functions that it
exports, each with the time in the name of its file. -/
structure Specimen where
  content : Bytes
  behaviour : External.Behaviour
  functions : List (String × Nat)

/-- The names of the files that the functions of a binary are exported to. -/
def Specimen.artifacts (specimen : Specimen) (binary : Path) : List Name :=
  specimen.functions.map fun (function, epoch) =>
    Text.bytes (Artifact.fileName binary.fileNameText function epoch)

/-- A tree in which a run is prepared: the binary is there, the script for the output directory is
in the scratch directory, and the output directory is the one at a location. -/
structure Ready (tree : FileTree) (binary output : Path) (content : Bytes) (directory : Location)
    (scratch : Scratch) : Prop where
  wellFormed : tree.WellFormed
  readable : tree.read binary = .ok content
  leads : tree.entry? output = .ok (directory, .directory)
  project : tree.isDirectory (projectDirectory scratch.path) = true
  script : ∃ text, Export.script output = .ok text ∧
    tree.read ((scriptDirectory scratch.path).sub Export.scriptName) = .ok (Text.bytes text)

variable {σ : Type}

/-- The analyzer exports the functions of a binary: whenever it is started on the binary and the
files can be written, it ends in the same way and leaves the files, and no other trace outside the
scratch directory. -/
structure Exports (analyzer : Headless) (launcher : External.Launcher (World σ))
    (binary output : Path) (directory : Location) (scratch : Scratch) (specimen : Specimen) :
    Prop where
  behaves : ∀ world : World σ,
    Ready world.files binary output specimen.content directory scratch →
    Writable world.files (Among directory (specimen.artifacts binary)) →
    (launcher (analyzer.invocation scratch.path binary (Digest.Sha256.hex specimen.content))
      world).1 = specimen.behaviour
  leaves : ∀ world : World σ,
    Ready world.files binary output specimen.content directory scratch →
    Writable world.files (Among directory (specimen.artifacts binary)) →
    Scratch.Leaves world.files scratch.location (Among directory (specimen.artifacts binary))
      (launcher (analyzer.invocation scratch.path binary (Digest.Sha256.hex specimen.content))
        world).2.files

/-- What a run comes to, and the names of the files that it leaves. -/
structure Plan where
  outcome : Except DecompileError Unit
  artifacts : List Name

/-- What comes of a run that starts in a tree: nothing is left if no scratch directory can be made
or prepared, or the analyzer cannot be started. -/
def planOf (analyzer : Headless) (tree : FileTree) (binary output : Path) (specimen : Specimen) :
    Plan :=
  match Scratch.create tree analyzer.scratchParent scratchStem with
  | .error cause => ⟨.error (.io analyzer.scratchParent cause), []⟩
  | .ok (scratch, _) =>
    match preparation scratch.path output with
    | .error error => ⟨.error error, []⟩
    | .ok _ =>
      let invocation :=
        analyzer.invocation scratch.path binary (Digest.Sha256.hex specimen.content)
      if invocation.isWhole then
        ⟨check (External.outputOf invocation specimen.behaviour), specimen.artifacts binary⟩
      else ⟨check (External.outputOf invocation (.refused .zeroByteArgument)), []⟩

/-! ## What a run comes to -/

theorem slash_notMem_scratchStem : '/' ∉ scratchStem.toList := by decide

/-- No artifact is named like a scratch directory. -/
theorem Specimen.ne_nameOf {specimen : Specimen} {binary : Path} {name : Name}
    (h : name ∈ specimen.artifacts binary) (n : Nat) : name ≠ Scratch.nameOf scratchStem n := by
  rintro rfl
  obtain ⟨⟨function, epoch⟩, -, hname⟩ := List.mem_map.mp h
  obtain ⟨c, hlast, hdigit⟩ := Scratch.exists_isDigit_getLast? scratchStem n
  have hname : Text.bytes (Artifact.fileName binary.fileNameText function epoch) =
      Scratch.nameOf scratchStem n := hname
  rw [← hname, Text.bytes, Text.Utf8.decodeLossy_encode, Artifact.toList_fileName,
    List.getLast?_append_of_ne_nil _ (by decide)] at hlast
  obtain rfl : 'c' = c := Option.some.inj hlast
  cases hdigit

theorem preparation_eq_ok {scratch output : Path} {text : String}
    (h : preparation scratch output = .ok text) :
    (projectDirectory scratch).bytes.length < pathLimit ∧ Export.script output = .ok text ∧
      ((scriptDirectory scratch).sub Export.scriptName).bytes.length < pathLimit := by
  rw [preparation] at h
  split at h
  · cases h
  · split at h
    · cases h
    next hproject =>
      split at h
      · cases h
      next script hscript =>
        dsimp only at h
        split at h
        · cases h
        next hfile =>
          cases h
          exact ⟨Nat.not_le.mp hproject, hscript, Nat.not_le.mp hfile⟩

section Made

variable {tree : FileTree} {parent : Path} {scratch : Scratch} {location : Location}
  {entry : Entry} (hwellFormed : tree.WellFormed)
  (hfresh : Scratch.Fresh tree parent scratchStem scratch)

include hwellFormed hfresh

/-- Nothing stands in a scratch directory that was just made. -/
theorem made_below (below : Location) (hbelow : below ≠ []) :
    (tree.put scratch.location .directory).at? (scratch.location ++ below) = none := by
  rw [at?_put (hfresh.location_ne_nil hwellFormed), if_neg (by simpa using hbelow)]
  exact hfresh.vacant_below hwellFormed (List.prefix_append _ _)

theorem made_elsewhere (text : String) (hbelow : ¬ scratch.location <+: location) :
    (prepared (tree.put scratch.location .directory) scratch.location text).at? location =
      tree.at? location := by
  rw [at?_prepared_of_not_below hbelow, at?_put (hfresh.location_ne_nil hwellFormed), if_neg]
  rintro rfl
  exact hbelow (List.prefix_refl _)

theorem not_below_of_at? (hat : tree.at? location = some entry) :
    ¬ scratch.location <+: location := by
  intro hbelow
  rw [hfresh.vacant_below hwellFormed hbelow] at hat
  cases hat

/-- What a path led to before a run was prepared, it leads to afterwards. -/
theorem entry?_prepared {path : Path} (text : String)
    (hentry : tree.entry? path = .ok (location, entry)) :
    FileTree.entry? (prepared (tree.put scratch.location .directory) scratch.location text) path =
      .ok (location, entry) := by
  have hspot : Writable tree (scratch.location <+: ·) := by
    intro other hbelow
    rw [hfresh.vacant_below hwellFormed hbelow]
    rfl
  refine entry?_transfer ?_ (fun _ hbelow => made_elsewhere hwellFormed hfresh text hbelow) hspot
    hentry (not_below_of_at? hwellFormed hfresh (hwellFormed.at?_of_entry? hentry))
  rw [workingDirectory_prepared, workingDirectory_put]

theorem wellFormed_made (text : String) :
    (prepared (tree.put scratch.location .directory) scratch.location text).WellFormed := by
  refine wellFormed_prepared (made_below hwellFormed hfresh) (hfresh.wellFormed_put hwellFormed) ?_
    text
  rw [at?_put (hfresh.location_ne_nil hwellFormed), if_pos rfl]

/-- **A prepared run finds what it needs.** -/
theorem ready_prepared {binary output : Path} {content : Bytes} {directory : Location}
    {executable : Bool}
    (hbinary : tree.entry? binary = .ok (location, .file content ⟨true, executable⟩))
    (houtput : tree.entry? output = .ok (directory, .directory)) {text : String}
    (htext : preparation scratch.path output = .ok text) :
    Ready (prepared (tree.put scratch.location .directory) scratch.location text) binary output
      content directory scratch := by
  obtain ⟨hproject, hscript, hfile⟩ := preparation_eq_ok htext
  obtain ⟨hscratch, hscripts⟩ := leads_prepared (made_below hwellFormed hfresh)
    (hfresh.leads slash_notMem_scratchStem hwellFormed) text
  refine ⟨wellFormed_made hwellFormed hfresh text, ?_,
    entry?_prepared hwellFormed hfresh text houtput, ?_, text, hscript, ?_⟩
  · rw [FileTree.read, entry?_prepared hwellFormed hfresh text hbinary]
    rfl
  · have hat : (prepared (tree.put scratch.location .directory) scratch.location text).at?
        (scratch.location ++ [Text.bytes "project"]) = some .directory := by
      rw [at?_prepared, if_neg (by simp), at?_withProject, if_pos rfl]
    have hentry := hscratch.entry?_child canName_project hproject hat fun _ => Entry.noConfusion
    rw [isDirectory, projectDirectory, Path.sub, hentry]
  · have hat : (prepared (tree.put scratch.location .directory) scratch.location text).at?
        (scratch.location ++ [Text.bytes "script"] ++ [Text.bytes Export.scriptName]) =
        some (.file (Text.bytes text) ⟨true, false⟩) := by
      rw [at?_prepared, if_pos rfl]
    have hentry := hscripts.entry?_child canName_scriptName hfile hat fun _ => Entry.noConfusion
    rw [FileTree.read, Path.sub, hentry]
    rfl

end Made

section Run

variable {analyzer : Headless} {launcher : External.Launcher (World σ)} {binary output : Path}
  {directory location : Location} {executable : Bool} {specimen : Specimen} {tree : FileTree}
  {spot : Location → Prop} {world : World σ} {parent : Path} {scratch : Scratch}

/-- A scratch directory is a trace that is gone with it. -/
theorem leaves_made (hwellFormed : tree.WellFormed)
    (hfresh : Scratch.Fresh tree parent scratchStem scratch) :
    Scratch.Leaves tree scratch.location (fun _ => False)
      (tree.put scratch.location .directory) where
  wellFormed := hfresh.wellFormed_put hwellFormed
  workingDirectory := workingDirectory_put _ _ _
  elsewhere other _ hbelow := by
    rw [at?_put (hfresh.location_ne_nil hwellFormed), if_neg]
    rintro rfl
    exact hbelow (List.prefix_refl _)
  written := fun _ hmem => hmem.elim

/-- So is what is prepared in it. -/
theorem leaves_prepared (hwellFormed : tree.WellFormed)
    (hfresh : Scratch.Fresh tree parent scratchStem scratch) (text : String) :
    Scratch.Leaves tree scratch.location (fun _ => False)
      (prepared (tree.put scratch.location .directory) scratch.location text) where
  wellFormed := wellFormed_made hwellFormed hfresh text
  workingDirectory := by rw [workingDirectory_prepared, workingDirectory_put]
  elsewhere := fun _ _ hbelow => made_elsewhere hwellFormed hfresh text hbelow
  written := fun _ hmem => hmem.elim

theorem among_nil (location : Location) : ¬ Among directory [] location := by
  simp [Among]

/-- No artifact stands in the scratch directory. -/
theorem not_below_of_among (hwellFormed : tree.WellFormed)
    (hfresh : Scratch.Fresh tree parent scratchStem scratch)
    (houtput : tree.entry? output = .ok (directory, .directory)) {other : Location}
    (hmem : Among directory (specimen.artifacts binary) other) :
    ¬ scratch.location <+: other := by
  obtain ⟨name, hname, rfl⟩ := hmem
  exact hfresh.not_prefix_child slash_notMem_scratchStem hwellFormed
    (hwellFormed.at?_of_entry? houtput) (specimen.ne_nameOf hname)

/-- The artifacts can be written once a run is prepared. -/
theorem writable_prepared (hwellFormed : tree.WellFormed) (hgrows : Grows tree spot world.files)
    (hfresh : Scratch.Fresh tree parent scratchStem scratch)
    (hfresh' : Scratch.Fresh world.files parent scratchStem scratch)
    (houtput : tree.entry? output = .ok (directory, .directory))
    (hwritable : Writable tree (Among directory (specimen.artifacts binary))) (text : String) :
    Writable (prepared (world.files.put scratch.location .directory) scratch.location text)
      (Among directory (specimen.artifacts binary)) := by
  intro other hmem
  rw [made_elsewhere hgrows.wellFormed hfresh' text
    (not_below_of_among hwellFormed hfresh houtput hmem)]
  by_cases hspot : spot other
  · obtain ⟨content, mode, hfile⟩ := hgrows.written other hspot
    rw [hfile]
    rfl
  · rw [hgrows.elsewhere other hspot]
    exact hwritable other hmem

/-- The analyzer does what is known of it when a run is prepared. -/
theorem exports_prepared (hwellFormed : tree.WellFormed) (hgrows : Grows tree spot world.files)
    (hspot : Writable tree spot) (hfresh : Scratch.Fresh tree parent scratchStem scratch)
    (hfresh' : Scratch.Fresh world.files parent scratchStem scratch)
    (hbinary : tree.entry? binary = .ok (location, .file specimen.content ⟨true, executable⟩))
    (hbinary' : ¬ spot location)
    (houtput : tree.entry? output = .ok (directory, .directory))
    (hwritable : Writable tree (Among directory (specimen.artifacts binary)))
    (hexports : Exports analyzer launcher binary output directory scratch specimen) {text : String}
    (htext : preparation scratch.path output = .ok text) {started : World σ}
    (hstarted : started.files =
      prepared (world.files.put scratch.location .directory) scratch.location text) :
    (launcher (analyzer.invocation scratch.path binary (Digest.Sha256.hex specimen.content))
        started).1 = specimen.behaviour ∧
      Scratch.Leaves world.files scratch.location (Among directory (specimen.artifacts binary))
        (launcher (analyzer.invocation scratch.path binary (Digest.Sha256.hex specimen.content))
          started).2.files := by
  have houtput' : world.files.entry? output = .ok (directory, .directory) :=
    hgrows.entry? hspot houtput (hspot.not_spot (hwellFormed.at?_of_entry? houtput) rfl)
  have hready : Ready started.files binary output specimen.content directory scratch :=
    hstarted ▸ ready_prepared hgrows.wellFormed hfresh' (hgrows.entry? hspot hbinary hbinary')
      houtput' htext
  have hfree : Writable started.files (Among directory (specimen.artifacts binary)) :=
    hstarted ▸ writable_prepared hwellFormed hgrows hfresh hfresh' houtput hwritable text
  have hleaves := leaves_prepared hgrows.wellFormed hfresh' text
  rw [← hstarted] at hleaves
  exact ⟨hexports.behaves started hready hfree,
    hleaves.trans (hexports.leaves started hready hfree)⟩

/-- **A run comes to what was planned**, and leaves its artifacts and no other trace, in every tree
that files were written into. -/
theorem invoke_grows (hwellFormed : tree.WellFormed) (hgrows : Grows tree spot world.files)
    (hspot : Writable tree spot) (hclear : Scratch.Clear scratchStem spot)
    (hnone : ∀ cause, Scratch.create tree analyzer.scratchParent scratchStem = .error cause →
      ∀ other, ¬ spot other)
    (hbinary : tree.entry? binary = .ok (location, .file specimen.content ⟨true, executable⟩))
    (hbinary' : ¬ spot location)
    (houtput : tree.entry? output = .ok (directory, .directory))
    (hwritable : Writable tree (Among directory (specimen.artifacts binary)))
    (hexports : ∀ scratch files,
      Scratch.create tree analyzer.scratchParent scratchStem = .ok (scratch, files) →
      Exports analyzer launcher binary output directory scratch specimen) :
    (analyzer.invoke launcher binary output (Digest.Sha256.hex specimen.content) world).1 =
        (planOf analyzer tree binary output specimen).outcome ∧
      Grows tree (fun other => spot other ∨
          Among directory (planOf analyzer tree binary output specimen).artifacts other)
        (analyzer.invoke launcher binary output (Digest.Sha256.hex specimen.content)
          world).2.files := by
  cases hcreate : Scratch.create tree analyzer.scratchParent scratchStem with
  | error cause =>
    have hempty := hnone cause hcreate
    have hnothing : Grows tree (fun _ => False) world.files :=
      hgrows.congr (by simpa using hempty)
    have hreorders := hnothing.reorders hwellFormed
    rw [invoke, planOf, hcreate, Scratch.create_error_of_reorders hreorders hcreate]
    exact ⟨rfl, hgrows.congr (by simp [among_nil])⟩
  | ok made =>
    obtain ⟨scratch, files⟩ := made
    obtain ⟨hfresh, -⟩ := Scratch.create_eq_ok hcreate
    have hfresh' := hfresh.grows slash_notMem_scratchStem hgrows hspot hclear
    have hprepare : prepare (world.files.put scratch.location .directory) scratch.path output =
        (preparation scratch.path output).map
          (prepared (world.files.put scratch.location .directory) scratch.location) :=
      prepare_eq (made_below hgrows.wellFormed hfresh')
        (hfresh'.leads slash_notMem_scratchStem hgrows.wellFormed)
    have hdiscard : ∀ {own : Location → Prop} {after : FileTree},
        Scratch.Leaves world.files scratch.location own after →
        (∀ other, own other → ¬ scratch.location <+: other) →
        Grows tree (fun other => spot other ∨ own other) (scratch.discard after) :=
      hfresh.grows_discard slash_notMem_scratchStem hwellFormed hgrows hspot hclear
    have hnothing : ∀ {after : FileTree},
        Scratch.Leaves world.files scratch.location (fun _ => False) after →
        Grows tree (fun other => spot other ∨ Among directory [] other) (scratch.discard after) :=
      fun hleaves => (hdiscard hleaves fun _ hmem => hmem.elim).congr (by simp [among_nil])
    rw [invoke, planOf, hcreate,
      Scratch.create_grows slash_notMem_scratchStem hwellFormed hgrows hspot hclear hcreate]
    dsimp only
    rw [hprepare]
    cases htext : preparation scratch.path output with
    | error error => exact ⟨rfl, hnothing (leaves_made hgrows.wellFormed hfresh')⟩
    | ok text =>
      dsimp only [Except.map, External.run]
      split
      · let started : World σ := { world with
          files := prepared (world.files.put scratch.location .directory) scratch.location text }
        have hstarted : started.files = prepared
          (world.files.put scratch.location .directory) scratch.location text := rfl
        obtain ⟨hbehaves, hleaves⟩ := exports_prepared hwellFormed hgrows hspot hfresh hfresh'
          hbinary hbinary' houtput hwritable (hexports scratch files hcreate) htext hstarted
        refine ⟨?_, hdiscard hleaves fun other => not_below_of_among hwellFormed hfresh houtput⟩
        rw [hbehaves]
      · exact ⟨rfl, hnothing (leaves_prepared hgrows.wellFormed hfresh' text)⟩

end Run

end FunctionSearch.Headless
