import FunctionSearch.Proofs.Artifact.Corpus
import FunctionSearch.Proofs.Artifact.Grammar

/-!
# Which artifacts are counted for a program

The artifacts of a program are counted by the start of their names, and filed by the fields of
their names when they are loaded.

* `exists_isFirstSplit_of_parse?`: a name that is read is split at its first separator.
* `belongsTo_iff_binary_eq`: the count and the fields agree about every name that is read, if the
  name of the program is one that can be read back.
* `counted_iff_filed`: so do the count and the corpus of a directory.
-/

namespace FunctionSearch.Artifact

open Text

/-! ## What is counted -/

theorem mem_namesOf_of_list {tree : FileTree} {directory : Path} {program : String}
    {entries : List (Name × Entry)} {name : Name} (hlist : tree.list directory = .ok entries) :
    name ∈ namesOf tree directory program ↔
      name ∈ entries.map Prod.fst ∧ belongsTo program name = true := by
  rw [namesOf, hlist]
  exact List.mem_filter

/-! ## Names that are read -/

/-- The binary that is read from a name stands in front of the first separator of the name. -/
theorem exists_isFirstSplit_of_parse? {name : String} {fields : Fields}
    (h : parse? name = .ok fields) :
    ∃ rest, IsFirstSplit separator name.toList fields.binary.toList rest := by
  obtain ⟨-, -, stem, later, hstem, hchosen⟩ := exists_chosen_of_parse? h
  obtain ⟨rest, hfirst⟩ := hchosen.isFirstSplit
  obtain ⟨behind, hname⟩ := prefix_of_isStem hstem
  have happend := splitFirst?_append (splitFirst?_eq_some_iff.mpr hfirst) behind
  rw [hname] at happend
  exact ⟨_, splitFirst?_eq_some_iff.mp happend⟩

/-- A text starts with a plain name and a separator exactly if that name stands in front of its
first separator. -/
theorem prefix_iff_of_isFirstSplit {s binary rest program : List Char}
    (hocc : ¬ separator <:+: program) (hlast : program.getLast? ≠ some '_')
    (hfirst : IsFirstSplit separator s binary rest) :
    program ++ separator <+: s ↔ binary = program := by
  constructor
  · rintro ⟨more, rfl⟩
    have hprogram := splitFirst?_eq_some_iff.mpr (isFirstSplit_append_separator hocc hlast)
    have happend := splitFirst?_eq_some_iff.mp (splitFirst?_append hprogram more)
    exact (hfirst.unique happend).1
  · rintro rfl
    exact ⟨rest, hfirst.eq.symm⟩

/-- **The count and the fields agree about every name that is read**, if the sanitised name of the
program holds no separator and ends in no underscore. -/
theorem belongsTo_iff_binary_eq {program : String}
    (hocc : ¬ separator <:+: (sanitize program).toList)
    (hlast : (sanitize program).toList.getLast? ≠ some '_') {name : Name} {fields : Fields}
    (hparse : parse? (lossy name) = .ok fields) :
    belongsTo program name = true ↔ fields.binary = sanitize program := by
  obtain ⟨rest, hfirst⟩ := exists_isFirstSplit_of_parse? hparse
  rw [belongsTo_iff, prefix_iff_of_isFirstSplit hocc hlast hfirst, String.toList_inj]

/-! ## Directories -/

/-- What a function is filed under is read from the name of its file. -/
theorem exists_fields_of_readFile {tree : FileTree} {directory : Path} {name : Name}
    {record : FunctionRecord} (h : readFile tree directory name = .inl record) :
    ∃ fields, parse? (lossy name) = .ok fields ∧ fields.binary = record.binary := by
  have hbecomes := becomes_readFile tree directory name
  rw [h] at hbecomes
  cases hbecomes with
  | record hparse => exact ⟨_, hparse, rfl⟩

/-- **An artifact is counted for a program exactly if it is filed under it**, if the sanitised name
of the program holds no separator and ends in no underscore: as a name that is read, and as a file
of a directory. Of any program, the artifacts that it writes are counted for it. -/
theorem counted_iff_filed (program : String) :
    (¬ separator <:+: (sanitize program).toList → (sanitize program).toList.getLast? ≠ some '_' →
      (∀ name fields, parse? (lossy name) = .ok fields →
        (belongsTo program name = true ↔ fields.binary = sanitize program)) ∧
      ∀ (tree : FileTree) directory entries, tree.list directory = .ok entries →
        ∀ name record, name ∈ filesOf entries → readFile tree directory name = .inl record →
          (name ∈ namesOf tree directory program ↔ record.binary = sanitize program)) ∧
    ∀ function epoch,
      belongsTo program (bytes (fileName program function epoch)) = true ∧
      ∀ (tree : FileTree) directory entries, tree.list directory = .ok entries →
        bytes (fileName program function epoch) ∈ entries.map Prod.fst →
        bytes (fileName program function epoch) ∈ namesOf tree directory program := by
  refine ⟨fun hocc hlast => ⟨?_, ?_⟩, fun function epoch => ⟨?_, ?_⟩⟩
  · intro name fields hparse
    exact belongsTo_iff_binary_eq hocc hlast hparse
  · intro tree directory entries hlist name record hfile hread
    obtain ⟨fields, hparse, hbinary⟩ := exists_fields_of_readFile hread
    obtain ⟨content, mode, hmem⟩ := mem_filesOf_iff.mp hfile
    have hname : name ∈ entries.map Prod.fst := List.mem_map.mpr ⟨_, hmem, rfl⟩
    rw [mem_namesOf_of_list hlist, belongsTo_iff_binary_eq hocc hlast hparse, hbinary]
    exact and_iff_right hname
  · exact belongsTo_fileName program function epoch
  · intro tree directory entries hlist hmem
    exact (mem_namesOf_of_list hlist).mpr ⟨hmem, belongsTo_fileName program function epoch⟩

/-- The name of an artifact without a time, of a function that begins with an underscore. -/
def untimedName : Name :=
  bytes "a_b___f__x"

/-- A directory with an empty file of this name. -/
def untimedFile : FileTree :=
  ⟨[([untimedName], .file [] false)], []⟩

/-- The name and the file are counted for a program with this sanitised name. -/
theorem counted_iff_filed_untimed :
    ¬ separator <:+: (sanitize "a b").toList ∧ (sanitize "a b").toList.getLast? ≠ some '_' ∧
      parse? (lossy untimedName) = .ok ⟨"a_b", "_f", none⟩ ∧
      belongsTo "a b" untimedName = true ∧
      untimedName ∈ namesOf untimedFile (.ofString "/") "a b" := by
  have hocc : ¬ separator <:+: (sanitize "a b").toList := by decide +kernel
  have hlast : (sanitize "a b").toList.getLast? ≠ some '_' := by decide +kernel
  have hparse : parse? (lossy untimedName) = .ok ⟨"a_b", "_f", none⟩ := by decide +kernel
  have hbinary : "a_b" = sanitize "a b" := by decide +kernel
  have hlist : untimedFile.list (.ofString "/") = .ok [(untimedName, .file [] false)] := by
    decide +kernel
  have hfile : untimedName ∈ filesOf [(untimedName, .file [] false)] := by decide +kernel
  have hread : readFile untimedFile (.ofString "/") untimedName = .inl ⟨"a_b", "_f", ""⟩ := by
    decide +kernel
  obtain ⟨hnames, hfiles⟩ := (counted_iff_filed "a b").1 hocc hlast
  exact ⟨hocc, hlast, hparse, (hnames _ _ hparse).mpr hbinary,
    (hfiles _ _ _ hlist _ _ hfile hread).mpr hbinary⟩

end FunctionSearch.Artifact
