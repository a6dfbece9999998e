import FunctionSearch.Proofs.Decompiler.Stages

/-!
# An analyzer that exports

What is relied on of the analyzer can be had: an analyzer that writes the functions of every binary
into one directory exports them, whatever is there already.

* `putFiles` puts empty files under names in a directory, and `at?_putFiles` says what stands where
  afterwards.
* `exporting` is the analyzer, and `exports_exporting` that it exports.
* `folderSetting` is a setting with it in which a directory holds some binaries, and
  `valid_folderSetting` says what makes it valid.
-/

namespace FunctionSearch.Headless

open FileTree

/-! ## Files in a directory -/

/-- The tree with an empty file under each of these names in a directory. -/
def putFiles (directory : Location) (names : List Name) (tree : FileTree) : FileTree :=
  names.foldl (fun tree name => tree.put (directory ++ [name]) (.file [] false)) tree

instance (directory : Location) (names : List Name) (location : Location) :
    Decidable (Among directory names location) :=
  inferInstanceAs (Decidable (∃ name ∈ names, location = directory ++ [name]))

section PutFiles

variable {directory : Location}

theorem at?_putFiles (names : List Name) (tree : FileTree) (location : Location) :
    (putFiles directory names tree).at? location =
      if Among directory names location then some (.file [] false) else tree.at? location := by
  induction names generalizing tree with
  | nil => exact (if_neg (among_nil location)).symm
  | cons name names ih =>
    have hcons : Among directory (name :: names) location ↔
        location = directory ++ [name] ∨ Among directory names location := by
      simp [Among]
    rw [putFiles, List.foldl_cons, ← putFiles, ih, at?_put (List.concat_ne_nil _ _)]
    by_cases hmem : Among directory names location
    · rw [if_pos hmem, if_pos (hcons.mpr (.inr hmem))]
    · rw [if_neg hmem]
      exact if_congr (hcons.trans (or_iff_left hmem)).symm rfl rfl

theorem workingDirectory_putFiles (names : List Name) (tree : FileTree) :
    (putFiles directory names tree).workingDirectory = tree.workingDirectory := by
  induction names generalizing tree with
  | nil => rfl
  | cons name names ih =>
    rw [putFiles, List.foldl_cons, ← putFiles, ih, workingDirectory_put]

theorem wellFormed_putFiles {names : List Name} {tree : FileTree} (hwellFormed : tree.WellFormed)
    (hdirectory : tree.at? directory = some .directory)
    (hwritable : Writable tree (Among directory names)) :
    (putFiles directory names tree).WellFormed := by
  induction names generalizing tree with
  | nil => exact hwellFormed
  | cons name names ih =>
    have hne : directory ++ [name] ≠ [] := List.concat_ne_nil _ _
    rw [putFiles, List.foldl_cons, ← putFiles]
    refine ih (hwellFormed.put hne ?_ (hwritable _ ⟨name, List.mem_cons_self, rfl⟩) _) ?_ ?_
    · rwa [List.dropLast_concat]
    · rw [at?_put hne, if_neg (by simp)]
      exact hdirectory
    · rintro location ⟨other, hother, rfl⟩
      rw [at?_put hne]
      split
      · rfl
      · exact hwritable _ ⟨other, List.mem_cons_of_mem name hother, rfl⟩

end PutFiles

/-! ## The analyzer -/

variable {σ : Type}

/-- An analyzer that exports the functions of every binary into a directory. The binary is the
fourth of its arguments. -/
def exporting (directory : Location) (specimens : Path → Specimen) : External.Launcher (World σ) :=
  fun invocation world =>
    let binary : Path := ⟨invocation.arguments.getD 3 []⟩
    ((specimens binary).behaviour,
      { world with files := putFiles directory ((specimens binary).artifacts binary) world.files })

/-- **This analyzer exports the functions of every binary.** -/
theorem exports_exporting (analyzer : Headless) (directory : Location) (specimens : Path → Specimen)
    (binary output : Path) (scratch : Scratch) :
    Exports analyzer (exporting directory specimens : External.Launcher (World σ)) binary output
      directory scratch (specimens binary) where
  behaves := fun _ _ _ => rfl
  leaves := fun _ hready hwritable =>
    { wellFormed := wellFormed_putFiles hready.wellFormed
        (hready.wellFormed.at?_of_entry? hready.leads) hwritable
      workingDirectory := workingDirectory_putFiles _ _
      elsewhere := fun _ hnot _ => (at?_putFiles _ _ _).trans (if_neg hnot)
      written := fun _ hmem => ⟨[], false, (at?_putFiles _ _ _).trans (if_pos hmem)⟩ }

/-! ## A directory of binaries -/

/-- Binaries of different contents, with the functions of each. -/
abbrev Folder := List (String × List String)

namespace Folder

/-- The path of a binary with a name. -/
def path (name : String) : Path :=
  .ofString ("in/" ++ name)

/-- The paths of the binaries. -/
def binaries (folder : Folder) : List Path :=
  folder.map (path ·.1)

/-- What the analyzer makes of the binaries. -/
def specimens (folder : Folder) (binary : Path) : Specimen :=
  match folder.zipIdx.find? (path ·.1.1 == binary) with
  | some ((_, functions), i) =>
    ⟨[UInt8.ofNat i], .ended ⟨.exited 0, [], []⟩, functions.map (·, 1)⟩
  | none => ⟨[], .ended ⟨.exited 0, [], []⟩, []⟩

/-- The tree with the binaries, an empty output directory and one for scratch directories. -/
def tree (folder : Folder) : FileTree where
  entries := [([Text.bytes "in"], .directory), ([Text.bytes "out"], .directory),
      ([Text.bytes "tmp"], .directory)] ++
    folder.zipIdx.map fun ((name, _), i) =>
      ([Text.bytes "in", Text.bytes name], .file [UInt8.ofNat i] false)
  workingDirectory := []

/-- The setting with this tree and analyzer. -/
def setting (folder : Folder) : Setting Unit where
  analyzer := ⟨.ofString "analyzer", none, none, .ofString "tmp"⟩
  launcher := exporting [Text.bytes "out"] folder.specimens
  output := .ofString "out"
  world := ⟨folder.tree, ⟨0⟩, ()⟩
  directory := [Text.bytes "out"]
  specimens := folder.specimens

/-- Whether a binary can be read and stands in no place of an artifact. -/
def offers (folder : Folder) (binary : Path) : Bool :=
  match folder.tree.entry? binary with
  | .ok (location, .file content ⟨true, _⟩) =>
    content == (folder.specimens binary).content &&
      folder.binaries.all fun other =>
        !decide (Among [Text.bytes "out"] ((folder.specimens other).artifacts other) location)
  | _ => false

theorem at?_output (folder : Folder) (name : Name) :
    folder.tree.at? ([Text.bytes "out"] ++ [name]) = none := by
  have hin : Text.bytes "out" ≠ Text.bytes "in" := by decide
  rw [at?_of_ne_nil (List.concat_ne_nil _ _), List.lookup_eq_none_iff]
  intro item hitem
  obtain hitem | hitem := List.mem_append.mp hitem
  · simp only [List.mem_cons, List.not_mem_nil, or_false] at hitem
    obtain rfl | rfl | rfl := hitem <;> simp
  · obtain ⟨⟨⟨other, functions⟩, i⟩, -, rfl⟩ := List.mem_map.mp hitem
    simp [hin]

/-- **The setting is valid** if the tree has the shape of one and every binary can be read. -/
theorem valid_setting {folder : Folder} (hwellFormed : folder.tree.WellFormed)
    (hleads : folder.tree.entry? (.ofString "out") = .ok ([Text.bytes "out"], .directory))
    (hoffers : ∀ binary ∈ folder.binaries, folder.offers binary = true) :
    folder.setting.Valid folder.binaries where
  wellFormed := hwellFormed
  leads := hleads
  readable := by
    intro binary hbinary
    have hoffer := hoffers binary hbinary
    rw [offers] at hoffer
    split at hoffer
    next location content executable hentry =>
      simp only [Bool.and_eq_true, beq_iff_eq, List.all_eq_true, Bool.not_eq_true',
        decide_eq_false_iff_not] at hoffer
      obtain ⟨rfl, hplace⟩ := hoffer
      exact ⟨location, executable, hentry, hplace⟩
    · cases hoffer
  writable := by
    rintro binary - location ⟨name, -, rfl⟩
    exact congrArg isWritable (folder.at?_output name)
  exports := fun binary _ scratch _ _ =>
    exports_exporting _ _ folder.specimens binary _ scratch

end Folder

end FunctionSearch.Headless
