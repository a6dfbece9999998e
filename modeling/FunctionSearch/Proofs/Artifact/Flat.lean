import FunctionSearch.Proofs.Artifact.Component
import FunctionSearch.Proofs.Artifact.Counted
import FunctionSearch.Proofs.Files.Written

/-!
# Artifacts as flat files

An artifact is seen only if it lies directly in the output directory. The name of one whose function
holds a slash leads out of it, or nowhere.

* `LiesIn` says that a file is listed, loaded and counted.
* `liesIn_write_iff`: a file that is written under a name of a program is one exactly if the name is
  a single component.
* `write_iff_slash_notMem`: in a directory that holds only files, an artifact is written at all
  exactly if its function holds no slash.
* `fileName_flat_iff`: all of this, for artifact names.
* `slash_not_flat`: a function that is lost.
-/

namespace FunctionSearch.Artifact

open FileTree

/-- A file that lies directly in a directory: it is listed there with its content, which is what
reading it gives if it may be read, has become an item of the corpus, and is counted for its
program. -/
structure LiesIn (tree : FileTree) (directory : Path) (program : String) (name : Name)
    (content : Bytes) : Prop where
  listed : ∃ entries mode, tree.list directory = .ok entries ∧
    (name, .file content mode) ∈ entries ∧
    tree.read (directory.child name) = if mode.readable then .ok content else .error .accessDenied
  loaded : ∃ corpus item, Corpus.load tree directory = .ok corpus ∧
    Becomes tree directory name item ∧ item.elim (· ∈ corpus.records) (· ∈ corpus.malformed)
  counted : name ∈ namesOf tree directory program

theorem mem_corpusOf {items : List (FunctionRecord ⊕ Malformed)}
    {item : FunctionRecord ⊕ Malformed} (h : item ∈ items) :
    item.elim (· ∈ (corpusOf items).records) (· ∈ (corpusOf items).malformed) := by
  cases item with
  | inl record => exact List.mem_filterMap.mpr ⟨_, h, rfl⟩
  | inr malformed => exact List.mem_filterMap.mpr ⟨_, h, rfl⟩

/-- A file that is listed is loaded, and counted if its name belongs to the program. -/
theorem liesIn_of_list {tree : FileTree} {directory : Path} {program : String} {name : Name}
    {content : Bytes} {entries : List (Name × Entry)} {mode : Mode}
    (hlist : tree.list directory = .ok entries) (hmem : (name, .file content mode) ∈ entries)
    (hread : tree.read (directory.child name) =
      if mode.readable then .ok content else .error .accessDenied)
    (hbelongs : belongsTo program name = true) :
    LiesIn tree directory program name content where
  listed := ⟨entries, mode, hlist, hmem, hread⟩
  loaded := by
    have hfile : name ∈ filesOf entries := mem_filesOf_iff.mpr ⟨content, mode, hmem⟩
    exact ⟨_, _, load_of_list hlist, becomes_readFile tree directory name,
      mem_corpusOf (List.mem_map_of_mem hfile)⟩
  counted := (mem_namesOf_of_list hlist).mpr ⟨List.mem_map.mpr ⟨_, hmem, rfl⟩, hbelongs⟩

/-! ## Files that are written -/

section Output

variable {tree : FileTree} {output : Path} {entries : List (Name × Entry)} {program : String}
  {name : Name} {content : Bytes} (hlist : tree.list output = .ok entries)

include hlist

/-- **A file that is written under a name of a program lies in the output directory exactly if the
name is a single component**, unless a link stands under it. -/
theorem liesIn_write_iff (hnamed : tree.Named) (hname : IsName name)
    (hbelongs : belongsTo program name = true) (hlink : ∀ target, (name, .link target) ∉ entries)
    {after : FileTree} (hwrite : tree.write (output.child name) content = .ok after) :
    LiesIn after output program name content ↔ Path.IsPart name := by
  obtain ⟨directory, hentry, rfl⟩ := list_eq_ok_iff.mp hlist
  constructor
  · intro h
    obtain ⟨listed, mode, hafter, hmem, -⟩ := h.listed
    exact (hnamed.write hwrite).isPart_of_list hafter (List.mem_map_of_mem hmem)
  · intro hpart
    obtain ⟨listed, mode, hafter, hmem, hread⟩ := list_write_child hentry hpart hname
      (fun target hat => hlink target (mem_childrenOf_of_at? hat)) hwrite
    exact liesIn_of_list hafter hmem hread hbelongs

/-- A file can be written under a free name. -/
theorem exists_write_of_notMem (hname : CanName name) (hfree : name ∉ entries.map Prod.fst)
    (hshort : (output.child name).bytes.length < pathLimit) :
    ∃ after, tree.write (output.child name) content = .ok after := by
  obtain ⟨directory, hentry, rfl⟩ := list_eq_ok_iff.mp hlist
  have hat : tree.at? (directory ++ [name]) = none := by
    by_contra hsome
    obtain ⟨entry, hat⟩ := Option.ne_none_iff_exists'.mp hsome
    exact hfree (List.mem_map_of_mem (mem_childrenOf_of_at? hat))
  rw [write_child hentry hname hat, if_neg (Nat.not_le.mpr hshort)]
  exact ⟨_, rfl⟩

/-- Nothing can be written below a directory that holds only files. -/
theorem exists_error_of_files (hfiles : ∀ item ∈ entries, isWritable (some item.2) = true)
    {first : Name} {rest : List Name} (hparts : Path.parts ⟨name⟩ = first :: rest)
    (hfirst : IsName first) (hrest : ¬ IsEnd rest)
    (hrelative : Path.isAbsolute ⟨name⟩ = false) :
    ∃ cause, tree.write (output.child name) content = .error cause := by
  obtain ⟨directory, hentry, rfl⟩ := list_eq_ok_iff.mp hlist
  have hwritable : isWritable (tree.at? (directory ++ [first])) = true := by
    cases hat : tree.at? (directory ++ [first]) with
    | none => rfl
    | some entry => exact hfiles _ (mem_childrenOf_of_at? hat)
  exact exists_error_of_write_below hentry hrelative hparts hfirst hrest hwritable content

end Output

/-- **In a directory that holds only files, a file can be written under an artifact name exactly if
the function holds no slash**, unless the name is taken or too long. -/
theorem write_iff_slash_notMem {binary function : String} {epoch : Nat} {tree : FileTree}
    {output : Path} {entries : List (Name × Entry)} {name : Name} {content : Bytes}
    (hname : name = Text.bytes (fileName binary function epoch)) (hbinary : '/' ∉ binary.toList)
    (hlist : tree.list output = .ok entries)
    (hfiles : ∀ item ∈ entries, isWritable (some item.2) = true)
    (hfree : name ∉ entries.map Prod.fst) (hshort : name.length < nameLimit)
    (hpath : (output.child name).bytes.length < pathLimit) :
    (∃ after, tree.write (output.child name) content = .ok after) ↔ '/' ∉ function.toList := by
  constructor
  · rintro ⟨after, hwrite⟩ hfunction
    obtain ⟨first, rest, hparts, hfirst, hrest, hrelative⟩ :=
      exists_parts_fileName epoch hbinary hfunction
    rw [← hname] at hparts hrelative
    obtain ⟨cause, herror⟩ : ∃ cause, tree.write (output.child name) content = .error cause :=
      exists_error_of_files hlist hfiles hparts hfirst hrest hrelative
    cases hwrite.symm.trans herror
  · intro hfunction
    have hcan : CanName name := by
      rw [hname] at hshort ⊢
      exact canName_fileName hbinary hfunction hshort
    exact exists_write_of_notMem hlist hcan hfree hpath

/-- **Which artifacts are flat files.** For the name of a binary, which holds no slash, and whatever
function:

* the artifact name is a single component of a path exactly if the function holds no slash, and it
  is never passed over;
* exactly then a file that is written under it lies directly in the output directory, where it is
  listed, loaded and counted;
* and exactly then it can be written at all, if there are only files in the output directory. -/
theorem fileName_flat_iff {binary : String} (hbinary : '/' ∉ binary.toList) (function : String)
    (epoch : Nat) {name : Name} (hname : name = Text.bytes (fileName binary function epoch)) :
    (Path.IsPart name ↔ '/' ∉ function.toList) ∧ IsName name ∧
    ∀ (tree : FileTree) output entries content, tree.list output = .ok entries →
      (∀ after, tree.Named → (∀ target, (name, .link target) ∉ entries) →
        tree.write (output.child name) content = .ok after →
        (LiesIn after output binary name content ↔ '/' ∉ function.toList)) ∧
      ((∀ item ∈ entries, isWritable (some item.2) = true) → name ∉ entries.map Prod.fst →
        name.length < nameLimit → (output.child name).bytes.length < pathLimit →
        ((∃ after, tree.write (output.child name) content = .ok after) ↔
          '/' ∉ function.toList)) := by
  have hpart : Path.IsPart name ↔ '/' ∉ function.toList := by
    rw [hname, isPart_fileName_iff, and_iff_right hbinary]
  have hproper : IsName name := hname ▸ isName_fileName binary function epoch
  have hbelongs : belongsTo binary name = true := hname ▸ belongsTo_fileName binary function epoch
  refine ⟨hpart, hproper, fun tree output entries content hlist => ⟨?_, ?_⟩⟩
  · intro after hnamed hlink hwrite
    rw [liesIn_write_iff hlist hnamed hproper hbelongs hlink hwrite, hpart]
  · exact write_iff_slash_notMem hname hbinary hlist

/-- A directory that takes in an artifact whose function ends in a slash. -/
def withOperator : FileTree :=
  ⟨[([Text.bytes "prog__operator"], .directory)], []⟩

/-- The artifacts of two operators: one is written into an empty directory and lies in it, the other
one cannot be written there, and lies elsewhere if it can. -/
theorem fileName_flat_operators :
    '/' ∉ "prog".toList ∧
      (∃ after, FileTree.write ⟨[], []⟩
          ((Path.ofString "/").child (Text.bytes "prog__operator___1.c")) [] = .ok after ∧
        LiesIn after (.ofString "/") "prog" (Text.bytes "prog__operator___1.c") []) ∧
      (¬ ∃ after, FileTree.write ⟨[], []⟩
          ((Path.ofString "/").child (Text.bytes "prog__operator/__1.c")) [] = .ok after) ∧
      ∃ after, withOperator.write
          ((Path.ofString "/").child (Text.bytes "prog__operator/__1.c")) [] = .ok after ∧
        ¬ LiesIn after (.ofString "/") "prog" (Text.bytes "prog__operator/__1.c") [] := by
  have hbinary : '/' ∉ "prog".toList := by decide
  have hless : Text.bytes "prog__operator___1.c" = Text.bytes (fileName "prog" "operator<" 1) := by
    decide +kernel
  have hslash : Text.bytes "prog__operator/__1.c" = Text.bytes (fileName "prog" "operator/" 1) := by
    decide +kernel
  have hempty : FileTree.list ⟨[], []⟩ (.ofString "/") = .ok [] := rfl
  have hlist : withOperator.list (.ofString "/") =
      .ok [(Text.bytes "prog__operator", .directory)] := by decide +kernel
  obtain ⟨-, -, hflat⟩ := fileName_flat_iff hbinary "operator<" 1 hless
  obtain ⟨-, -, hlost⟩ := fileName_flat_iff hbinary "operator/" 1 hslash
  obtain ⟨after, hafter⟩ := ((hflat _ _ _ [] hempty).2 (by simp) (by simp) (by decide +kernel)
    (by decide +kernel)).mpr (by decide)
  obtain ⟨within, hwithin⟩ : ∃ after, withOperator.write
      ((Path.ofString "/").child (Text.bytes "prog__operator/__1.c")) [] = .ok after :=
    ⟨withOperator.put [Text.bytes "prog__operator", Text.bytes "__1.c"] (.file [] false),
      by decide +kernel⟩
  refine ⟨hbinary, ⟨after, hafter, ?_⟩, fun hwrite => ?_, within, hwithin, fun hlies => ?_⟩
  · exact ((hflat _ _ _ [] hempty).1 after (by decide) (by simp) hafter).mpr (by decide)
  · exact ((hlost _ _ _ [] hempty).2 (by simp) (by simp) (by decide +kernel)
      (by decide +kernel)).mp hwrite (by decide)
  · exact ((hlost _ _ _ [] hlist).1 within (by decide +kernel) (by simp) hwithin).mp hlies
      (by decide)

/-- **The artifact of a function with a slash is lost.** Its name is that of a file in another
directory, so it cannot be written into an empty one; and where a directory takes it in, nothing is
loaded, and only the name of that directory is counted. -/
theorem slash_not_flat :
    '/' ∉ "prog".toList ∧ fileName "prog" "operator/" 1 = "prog__operator/__1.c" ∧
      Path.parts (.ofString "prog__operator/__1.c") =
        [Text.bytes "prog__operator", Text.bytes "__1.c"] ∧
      FileTree.write ⟨[], []⟩ ((Path.ofString "/").child (Text.bytes "prog__operator/__1.c")) [] =
        .error .notFound ∧
      ∃ after,
        withOperator.write ((Path.ofString "/").child (Text.bytes "prog__operator/__1.c")) [] =
          .ok after ∧
        after.read (.ofString "/prog__operator/__1.c") = .ok [] ∧
        Corpus.load after (.ofString "/") = .ok ⟨[], []⟩ ∧
        namesOf after (.ofString "/") "prog" = [Text.bytes "prog__operator"] := by
  refine ⟨by decide, by decide +kernel, by decide +kernel, by decide +kernel,
    withOperator.put [Text.bytes "prog__operator", Text.bytes "__1.c"] (.file [] false), ?_⟩
  decide +kernel

end FunctionSearch.Artifact
