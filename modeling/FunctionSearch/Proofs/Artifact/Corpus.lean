import FunctionSearch.Artifact.Corpus
import FunctionSearch.Proofs.Artifact.Component
import Mathlib.Data.List.Perm.Basic

/-!
# Reading a corpus back

A corpus has one item for every file of its directory and none for anything else.

* `Becomes` says what a file becomes, and `exists_items_load` that the corpus of a directory
  consists of what its files become, in the order of the listing.
* `Exported` is a function with all that its file tells, and `Exported.Plain` says when the name of
  the file tells it.
* `load_of_perm`: a directory that holds the files of some functions, in any order, is loaded as
  these functions.
* `load_writeAll`: so is a directory into which they are written.
* `load_reads_back`: all of this.
-/

namespace FunctionSearch.Artifact

open FileTree

/-! ## What files become -/

/-- The files among the entries of a directory. -/
def filesOf (entries : List (Name × Entry)) : List Name :=
  entries.filterMap fun
    | (name, .file ..) => some name
    | _ => none

/-- What a file of a directory becomes: a function if its name can be parsed and it can be read, and
else a malformed file with what the parser or the system says. -/
inductive Becomes (tree : FileTree) (directory : Path) (name : Name) :
    FunctionRecord ⊕ Malformed → Prop
  | record {fields : Fields} {content : Bytes} (hparse : parse? (Text.lossy name) = .ok fields)
    (hread : tree.read (directory.child name) = .ok content) :
    Becomes tree directory name (.inl ⟨fields.binary, fields.function, Text.lossy content⟩)
  | misnamed {defect : Defect} (hparse : parse? (Text.lossy name) = .error defect) :
    Becomes tree directory name (.inr ⟨directory.child name, defect.reason⟩)
  | unreadable {fields : Fields} {cause : IoError}
    (hparse : parse? (Text.lossy name) = .ok fields)
    (hread : tree.read (directory.child name) = .error cause) :
    Becomes tree directory name (.inr ⟨directory.child name, cause.message⟩)

/-- The functions and the malformed files among some items, each in order. -/
def corpusOf (items : List (FunctionRecord ⊕ Malformed)) : Corpus :=
  ⟨items.filterMap Sum.getLeft?, items.filterMap Sum.getRight?⟩

theorem becomes_readFile (tree : FileTree) (directory : Path) (name : Name) :
    Becomes tree directory name (readFile tree directory name) := by
  rw [readFile]
  cases hparse : parse? (Text.lossy name) with
  | error defect => exact .misnamed hparse
  | ok fields =>
    cases hread : tree.read (directory.child name) with
    | ok content => exact .record hparse hread
    | error cause => exact .unreadable hparse hread

theorem ofEntries_eq_corpusOf (tree : FileTree) (directory : Path)
    (entries : List (Name × Entry)) :
    Corpus.ofEntries tree directory entries =
      corpusOf ((filesOf entries).map (readFile tree directory)) := by
  have hitems : entries.filterMap (readEntry tree directory) =
      (filesOf entries).map (readFile tree directory) := by
    rw [filesOf, List.map_filterMap]
    refine List.filterMap_congr fun item _ => ?_
    obtain ⟨name, entry⟩ := item
    cases entry <;> rfl
  have hleft : (fun item : FunctionRecord ⊕ Malformed => item.elim some fun _ => none) =
      Sum.getLeft? := by
    funext item
    cases item <;> rfl
  have hright : (fun item : FunctionRecord ⊕ Malformed => item.elim (fun _ => none) some) =
      Sum.getRight? := by
    funext item
    cases item <;> rfl
  rw [Corpus.ofEntries, corpusOf, hitems, hleft, hright]

theorem load_of_list {tree : FileTree} {directory : Path} {entries : List (Name × Entry)}
    (hlist : tree.list directory = .ok entries) :
    Corpus.load tree directory =
      .ok (corpusOf ((filesOf entries).map (readFile tree directory))) := by
  rw [Corpus.load, hlist, ← ofEntries_eq_corpusOf]
  rfl

/-- **A corpus consists of what the files of its directory become**, one item for each, in the order
of the listing. Directories and links leave no trace in it. -/
theorem exists_items_load {tree : FileTree} {directory : Path} {entries : List (Name × Entry)}
    (hlist : tree.list directory = .ok entries) :
    ∃ items, Corpus.load tree directory = .ok (corpusOf items) ∧
      List.Forall₂ (Becomes tree directory) (filesOf entries) items := by
  refine ⟨_, load_of_list hlist, ?_⟩
  rw [List.forall₂_map_right_iff, List.forall₂_same]
  exact fun name _ => becomes_readFile tree directory name

theorem mem_filesOf_iff {entries : List (Name × Entry)} {name : Name} :
    name ∈ filesOf entries ↔ ∃ content mode, (name, .file content mode) ∈ entries := by
  rw [filesOf, List.mem_filterMap]
  constructor
  · rintro ⟨⟨other, entry⟩, hmem, hfile⟩
    cases entry with
    | file => cases hfile; exact ⟨_, _, hmem⟩
    | directory | link => cases hfile
  · rintro ⟨content, mode, hmem⟩
    exact ⟨_, hmem, rfl⟩

theorem filesOf_map_file (files : List (Name × Bytes)) :
    filesOf (files.map fun item => (item.1, .file item.2 ⟨true, false⟩)) = files.map Prod.fst := by
  rw [filesOf, List.filterMap_map]
  exact congrFun List.filterMap_eq_map files

/-- **Reading a file that is listed gives what it contains**, unless its path is too long or it may
not be read. -/
theorem read_of_list {tree : FileTree} {directory : Path} {entries : List (Name × Entry)}
    (hlist : tree.list directory = .ok entries) (hwellFormed : tree.WellFormed) {name : Name}
    {content : Bytes} {mode : Mode} (hmem : (name, .file content mode) ∈ entries)
    (hname : CanName name) :
    tree.read (directory.child name) =
      if pathLimit ≤ (directory.child name).bytes.length then .error .nameTooLong
      else if mode.readable then .ok content else .error .accessDenied := by
  obtain ⟨location, hentry, rfl⟩ := list_eq_ok_iff.mp hlist
  have hat : tree.at? (location ++ [name]) = some (.file content mode) :=
    (hwellFormed.at?_eq_some_iff (List.concat_ne_nil _ _)).mpr (mem_childrenOf_iff.mp hmem)
  exact read_child hentry hname hat

/-! ## Functions that are exported -/

/-- A function as it is exported. -/
structure Exported where
  binary : String
  function : String
  epoch : UInt64
  code : String
  deriving DecidableEq, Repr

namespace Exported

/-- The name of the file that holds a function. -/
def name (exported : Exported) : Name :=
  Text.bytes (fileName exported.binary exported.function exported.epoch.toNat)

/-- The file that holds a function. -/
def file (exported : Exported) : Name × Bytes :=
  (exported.name, Text.bytes exported.code)

@[simp] theorem file_fst (exported : Exported) : exported.file.1 = exported.name := by
  rw [file]

/-- The function as it should be loaded. -/
def record (exported : Exported) : FunctionRecord :=
  ⟨sanitize exported.binary, sanitize exported.function, exported.code⟩

/-- A function whose sanitised fields are told by the name of its file, which is one in a
directory. -/
structure Plain (exported : Exported) : Prop where
  binary_nonempty : sanitize exported.binary ≠ ""
  function_nonempty : sanitize exported.function ≠ ""
  noSeparator : ¬ separator <:+: (sanitize exported.binary).toList
  noUnderscore : (sanitize exported.binary).toList.getLast? ≠ some '_'
  noSlash : '/' ∉ (sanitize exported.binary).toList ∧ '/' ∉ (sanitize exported.function).toList

variable {exported : Exported}

/-- **The file of a plain function becomes this function.** -/
theorem Plain.readFile_eq (h : exported.Plain) {tree : FileTree} {directory : Path}
    (hread : tree.read (directory.child exported.name) = .ok (Text.bytes exported.code)) :
    readFile tree directory exported.name = .inl exported.record := by
  have hparse : parse? (fileName exported.binary exported.function exported.epoch.toNat) =
      .ok ⟨sanitize exported.binary, sanitize exported.function, some exported.epoch.toNat⟩ :=
    parse?_fileName_of_plain h.binary_nonempty h.function_nonempty ⟨h.noSeparator, h.noUnderscore⟩
      (toNat_lt_epochBound exported.epoch)
  rw [readFile, hread]
  simp only [name, Text.lossy_bytes, hparse, record]

end Exported

open Exported

theorem corpusOf_map_inl (records : List FunctionRecord) :
    corpusOf (records.map Sum.inl) = ⟨records, []⟩ := by
  simp [corpusOf, List.filterMap_map, Function.comp_def]

/-- Elements that are those of a mapped list in some order are the elements of a list that was put
into this order before. -/
theorem exists_perm_of_perm_map {α β : Type} {f : α → β} {l : List β} {m : List α}
    (h : l.Perm (m.map f)) : ∃ m' : List α, m'.Perm m ∧ l = m'.map f := by
  have hmap : List.Forall₂ (fun b a => b = f a) (m.map f) m := by
    rw [List.forall₂_map_left_iff, List.forall₂_same]
    exact fun _ _ => rfl
  obtain ⟨m', hl, hperm⟩ := List.perm_comp_forall₂ h hmap
  refine ⟨m', hperm, ?_⟩
  rwa [← List.forall₂_eq_eq_eq, List.forall₂_map_right_iff]

/-- The files of plain functions are loaded as these functions, in the order of the listing. -/
theorem load_of_files {tree : FileTree} {directory : Path} {entries : List (Name × Entry)}
    {functions : List Exported} (hlist : tree.list directory = .ok entries)
    (hfiles : filesOf entries = functions.map name) (hplain : ∀ e ∈ functions, e.Plain)
    (hread : ∀ e ∈ functions, tree.read (directory.child e.name) = .ok (Text.bytes e.code)) :
    Corpus.load tree directory = .ok ⟨functions.map record, []⟩ := by
  have hitems : (functions.map name).map (readFile tree directory) =
      (functions.map record).map Sum.inl := by
    rw [List.map_map, List.map_map]
    exact List.map_congr_left fun e he => (hplain e he).readFile_eq (hread e he)
  rw [load_of_list hlist, hfiles, hitems, corpusOf_map_inl]

/-- **A directory that holds the files of some plain functions is loaded as these functions**, in
the order in which it lists the files. -/
theorem load_of_perm {tree : FileTree} {directory : Path} {entries : List (Name × Entry)}
    {functions : List Exported} (hlist : tree.list directory = .ok entries)
    (hfiles : (filesOf entries).Perm (functions.map name)) (hplain : ∀ e ∈ functions, e.Plain)
    (hread : ∀ e ∈ functions, tree.read (directory.child e.name) = .ok (Text.bytes e.code)) :
    ∃ listed : List Exported, listed.Perm functions ∧ filesOf entries = listed.map name ∧
      Corpus.load tree directory = .ok ⟨listed.map record, []⟩ := by
  obtain ⟨listed, hperm, heq⟩ := exists_perm_of_perm_map hfiles
  exact ⟨listed, hperm, heq, load_of_files hlist heq (fun e he => hplain e (hperm.mem_iff.mp he))
    fun e he => hread e (hperm.mem_iff.mp he)⟩

/-! ## Functions that are written -/

/-- Write files into a directory, one after the other. -/
def writeAll (tree : FileTree) (directory : Path) : List (Name × Bytes) → Except IoError FileTree
  | [] => .ok tree
  | (name, content) :: rest => do
    let tree ← tree.write (directory.child name) content
    writeAll tree directory rest

/-- A name in a directory under which a file can be written. -/
structure CanWrite (directory : Path) (name : Name) : Prop where
  canName : CanName name
  short : (directory.child name).bytes.length < pathLimit

/-- A tree in which files were written under free names of a directory. -/
structure Written (tree : FileTree) (directory : Path) (location : Location)
    (files : List (Name × Bytes)) (after : FileTree) : Prop where
  leads : after.entry? directory = .ok (location, .directory)
  listed : after.childrenOf location =
    tree.childrenOf location ++ files.map fun file => (file.1, .file file.2 ⟨true, false⟩)
  holds : ∀ file ∈ files, after.at? (location ++ [file.1]) = some (.file file.2 ⟨true, false⟩)
  others : ∀ name ∉ files.map Prod.fst,
    after.at? (location ++ [name]) = tree.at? (location ++ [name])

/-- One more file, written before the others. -/
theorem Written.cons {tree after : FileTree} {directory : Path} {location : Location}
    {files : List (Name × Bytes)} {name : Name} {content : Bytes}
    (h : Written (tree.put (location ++ [name]) (.file content ⟨true, false⟩)) directory location
      files after)
    (hfree : tree.at? (location ++ [name]) = none) (hname : name ∉ files.map Prod.fst) :
    Written tree directory location ((name, content) :: files) after where
  leads := h.leads
  listed := by
    rw [h.listed, childrenOf_put hfree, List.append_assoc]
    rfl
  holds := by
    rw [List.forall_mem_cons]
    refine ⟨?_, h.holds⟩
    rw [h.others name hname, at?_put (List.concat_ne_nil _ _), if_pos rfl]
  others other hother := by
    rw [List.map_cons, List.mem_cons, not_or] at hother
    rw [h.others other hother.2, at?_put (List.concat_ne_nil _ _), if_neg (by simpa using hother.1)]

/-- **Files can be written under free names of a directory.** -/
theorem exists_writeAll {tree : FileTree} {directory : Path} {location : Location}
    {files : List (Name × Bytes)}
    (hentry : tree.entry? directory = .ok (location, .directory))
    (hnames : ∀ file ∈ files, CanWrite directory file.1) (hnodup : (files.map Prod.fst).Nodup)
    (hfree : ∀ file ∈ files, tree.at? (location ++ [file.1]) = none) :
    ∃ after, writeAll tree directory files = .ok after ∧
      Written tree directory location files after := by
  induction files generalizing tree with
  | nil =>
    exact ⟨tree, rfl, hentry, (List.append_nil _).symm, List.forall_mem_nil _, fun _ _ => rfl⟩
  | cons file files ih =>
    obtain ⟨name, content⟩ := file
    rw [List.forall_mem_cons] at hnames hfree
    rw [List.map_cons, List.nodup_cons] at hnodup
    obtain ⟨after, hwrite, hwritten⟩ := @ih
      (tree.put (location ++ [name]) (.file content ⟨true, false⟩))
      (entry?_put hentry (by rw [hfree.1]; rfl) _) hnames.2 hnodup.2 (fun other hother => by
        have hne : other.1 ≠ name := by
          rintro rfl
          exact hnodup.1 (List.mem_map.mpr ⟨other, hother, rfl⟩)
        rw [at?_put (List.concat_ne_nil _ _), if_neg (by simpa using hne)]
        exact hfree.2 other hother)
    refine ⟨after, ?_, hwritten.cons hfree.1 hnodup.1⟩
    rw [writeAll, write_child hentry hnames.1.canName hfree.1,
      if_neg (Nat.not_le.mpr hnames.1.short)]
    exact hwrite

/-- A file that was written is read as it was written. -/
theorem Written.read {tree after : FileTree} {directory : Path} {location : Location}
    {files : List (Name × Bytes)} (h : Written tree directory location files after)
    {file : Name × Bytes} (hmem : file ∈ files) (hname : CanWrite directory file.1) :
    after.read (directory.child file.1) = .ok file.2 := by
  rw [read_child h.leads hname.canName (h.holds file hmem), if_neg (Nat.not_le.mpr hname.short),
    if_pos rfl]

/-- The name of the file of a plain function is one in a directory, if it is not too long. -/
theorem Exported.Plain.canName {exported : Exported} (h : exported.Plain)
    (hshort : exported.name.length < nameLimit) : CanName exported.name :=
  canName_fileName (fun hslash => h.noSlash.1 (slash_mem_sanitize_iff.mpr hslash))
    (fun hslash => h.noSlash.2 (slash_mem_sanitize_iff.mpr hslash)) hshort

/-- **An empty directory into which plain functions are written is loaded as these functions**, if
no two of them share a name. -/
theorem load_writeAll {tree : FileTree} {directory : Path} {functions : List Exported}
    (hempty : tree.list directory = .ok []) (hplain : ∀ e ∈ functions, e.Plain)
    (hshort : ∀ e ∈ functions, e.name.length < nameLimit ∧
      (directory.child e.name).bytes.length < pathLimit)
    (hnodup : (functions.map Exported.name).Nodup) :
    ∃ after, writeAll tree directory (functions.map file) = .ok after ∧
      Corpus.load after directory = .ok ⟨functions.map record, []⟩ := by
  obtain ⟨location, hentry, hnil⟩ := list_eq_ok_iff.mp hempty
  have hfree : ∀ name, tree.at? (location ++ [name]) = none := by
    intro name
    by_contra hsome
    obtain ⟨entry, hat⟩ := Option.ne_none_iff_exists'.mp hsome
    have hmem := mem_childrenOf_of_at? hat
    rw [← hnil] at hmem
    cases hmem
  have hnames : ∀ item ∈ functions.map file, CanWrite directory item.1 := by
    rw [List.forall_mem_map]
    intro e he
    rw [file_fst]
    exact ⟨(hplain e he).canName (hshort e he).1, (hshort e he).2⟩
  have hdistinct : ((functions.map file).map Prod.fst).Nodup := by
    rw [List.map_map]
    rwa [show Prod.fst ∘ file = Exported.name from funext file_fst]
  obtain ⟨after, hwrite, hwritten⟩ :=
    exists_writeAll hentry hnames hdistinct fun item _ => hfree item.1
  refine ⟨after, hwrite, load_of_files (list_eq_ok_iff.mpr ⟨location, hwritten.leads, rfl⟩) ?_
    hplain fun e he => ?_⟩
  · rw [hwritten.listed, ← hnil, List.nil_append, filesOf_map_file, List.map_map]
    exact congrArg (functions.map ·) (funext file_fst)
  · have hmem : e.file ∈ functions.map file := List.mem_map_of_mem he
    rw [← file_fst]
    exact hwritten.read hmem (hnames _ hmem)

/-! ## Both ways -/

/-- **A corpus loses nothing and makes nothing up.**

* Whatever a directory holds, each of its files becomes one item, in the order of the listing, and
  nothing else does. What a file contains is what reading it gives, unless it cannot be read.
* If the names of the files are those of some plain functions, in any order, and each file reads as
  the code of its function, the corpus consists of these functions in this order, and no file is
  malformed.
* An empty directory into which plain functions with names of their own are written is such a
  directory. -/
theorem load_reads_back :
    (∀ (tree : FileTree) directory entries, tree.list directory = .ok entries →
      (∃ items, Corpus.load tree directory =
          .ok ⟨items.filterMap Sum.getLeft?, items.filterMap Sum.getRight?⟩ ∧
        List.Forall₂ (Becomes tree directory) (filesOf entries) items) ∧
      (tree.WellFormed → ∀ name content mode, (name, .file content mode) ∈ entries →
        CanName name → tree.read (directory.child name) =
          if pathLimit ≤ (directory.child name).bytes.length then .error .nameTooLong
          else if mode.readable then .ok content else .error .accessDenied) ∧
      ∀ functions : List Exported, (∀ e ∈ functions, e.Plain) →
        (filesOf entries).Perm (functions.map Exported.name) →
        (∀ e ∈ functions, tree.read (directory.child e.name) = .ok (Text.bytes e.code)) →
        ∃ listed : List Exported, listed.Perm functions ∧
          filesOf entries = listed.map Exported.name ∧
          Corpus.load tree directory = .ok ⟨listed.map record, []⟩) ∧
    ∀ (tree : FileTree) directory (functions : List Exported), tree.list directory = .ok [] →
      (∀ e ∈ functions, e.Plain) → (functions.map Exported.name).Nodup →
      (∀ e ∈ functions, e.name.length < nameLimit ∧
        (directory.child e.name).bytes.length < pathLimit) →
      ∃ after, writeAll tree directory (functions.map file) = .ok after ∧
        Corpus.load after directory = .ok ⟨functions.map record, []⟩ := by
  refine ⟨fun tree directory entries hlist => ⟨exists_items_load hlist, ?_, ?_⟩, ?_⟩
  · exact fun hwellFormed _ _ _ => read_of_list hlist hwellFormed
  · exact fun functions hplain hfiles hread => load_of_perm hlist hfiles hplain hread
  · exact fun _ _ _ hempty hplain hnodup hshort => load_writeAll hempty hplain hshort hnodup

instance (exported : Exported) : Decidable exported.Plain :=
  decidable_of_iff
    (sanitize exported.binary ≠ "" ∧ sanitize exported.function ≠ "" ∧
      ¬ separator <:+: (sanitize exported.binary).toList ∧
      (sanitize exported.binary).toList.getLast? ≠ some '_' ∧
      '/' ∉ (sanitize exported.binary).toList ∧ '/' ∉ (sanitize exported.function).toList)
    ⟨fun ⟨h₁, h₂, h₃, h₄, h₅⟩ => ⟨h₁, h₂, h₃, h₄, h₅⟩, fun h => ⟨h.1, h.2, h.3, h.4, h.5⟩⟩

/-- Two functions, of which one has a name with separators and the other one with a character that
is replaced. -/
def twoFunctions : List Exported :=
  [⟨"lib-a.so", "__init__", 1, "int x;"⟩, ⟨"b c", "f", 2, "é"⟩]

/-- A directory with their files the other way round, and a directory and a link beside them. -/
def besides : FileTree :=
  ⟨[([Text.bytes "b_c__f__2.c"], .file (Text.bytes "é") false), ([Text.bytes "a__b"], .directory),
    ([Text.bytes "a__c"], .link (.ofString "a__b")),
    ([Text.bytes "lib-a.so____init____1.c"], .file (Text.bytes "int x;") true)], []⟩

/-- The functions written into an empty directory, and their files beside other entries. -/
theorem load_reads_back_two :
    (∃ after, writeAll ⟨[], []⟩ (.ofString "/") (twoFunctions.map file) = .ok after ∧
      Corpus.load after (.ofString "/") =
        .ok ⟨[⟨"lib-a.so", "__init__", "int x;"⟩, ⟨"b_c", "f", "é"⟩], []⟩) ∧
    ∃ listed : List Exported, listed.Perm twoFunctions ∧
      Corpus.load besides (.ofString "/") = .ok ⟨listed.map record, []⟩ := by
  have hplain : ∀ e ∈ twoFunctions, e.Plain := by decide +kernel
  have hrecords : twoFunctions.map record =
      [⟨"lib-a.so", "__init__", "int x;"⟩, ⟨"b_c", "f", "é"⟩] := by decide +kernel
  refine ⟨?_, ?_⟩
  · rw [← hrecords]
    exact load_reads_back.2 ⟨[], []⟩ (.ofString "/") twoFunctions rfl hplain (by decide +kernel)
      (by decide +kernel)
  · obtain ⟨listed, hperm, -, hload⟩ := (load_reads_back.1 besides (.ofString "/") _ rfl).2.2
      twoFunctions hplain (by decide +kernel) (by decide +kernel)
    exact ⟨listed, hperm, hload⟩

end FunctionSearch.Artifact
