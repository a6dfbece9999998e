import FunctionSearch.Files.Scratch
import FunctionSearch.Proofs.Files.Below
import FunctionSearch.Proofs.Files.Growth
import FunctionSearch.Proofs.Text.Utf8

/-!
# Scratch directories in trees that grow

The first free name for a scratch directory stays the first free one when files are written
elsewhere (`Fresh.grows`, `create_grows`), so every run gets the same one. `Fresh.leads` says that
the path of a new scratch directory leads there.
-/

namespace FunctionSearch.Scratch

open FileTree

variable {tree grown : FileTree} {spot : Location → Prop} {parent : Path} {stem : String}
  {scratch : Scratch}

/-! ## Names -/

theorem exists_isDigit_getLast? (stem : String) (n : Nat) :
    ∃ c, (Text.Utf8.decodeLossy (nameOf stem n)).getLast? = some c ∧ c.isDigit = true := by
  have hne : Number.numeral n ≠ [] := Nat.toDigits_ne_nil
  refine ⟨(Number.numeral n).getLast hne, ?_, ?_⟩
  · rw [nameOf, Text.Utf8.decodeLossy_encode, List.getLast?_append_of_ne_nil _ hne,
      List.getLast?_eq_some_getLast hne]
  · exact Nat.isDigit_of_mem_toDigits (by decide) (by decide) (List.getLast_mem hne)

theorem isName_nameOf (stem : String) (n : Nat) : IsName (nameOf stem n) := by
  obtain ⟨c, hlast, hdigit⟩ := exists_isDigit_getLast? stem n
  have hne : ∀ s : List Char, s.getLast? ≠ some c → nameOf stem n ≠ Text.Utf8.encode s := by
    intro s hs heq
    rw [heq, Text.Utf8.decodeLossy_encode] at hlast
    exact hs hlast
  have hdot : '.' ≠ c := by
    rintro rfl
    cases hdigit
  exact ⟨hne [] (by simp), hne ['.'] (by simpa using hdot), hne ['.', '.'] (by simpa using hdot)⟩

theorem isPart_nameOf (hstem : '/' ∉ stem.toList) (n : Nat) : Path.IsPart (nameOf stem n) := by
  refine ⟨(isName_nameOf stem n).nonempty, fun hmem => ?_⟩
  have hslash : '/' ∈ stem.toList ++ List.replicate (6 - (Number.numeral n).length) '0' ++
      Number.numeral n := Text.Utf8.ofNat_mem_of_mem_encode (b := Path.slash) (by decide) hmem
  rw [List.mem_append, List.mem_append] at hslash
  obtain (hslash | hslash) | hslash := hslash
  · exact hstem hslash
  · cases List.eq_of_mem_replicate hslash
  · have hdigit : '/'.isDigit = true := Nat.isDigit_of_mem_toDigits (by decide) (by decide) hslash
    cases hdigit

/-! ## Fresh names -/

/-- A scratch directory that can be made in a tree, under a name that is free. -/
structure Fresh (tree : FileTree) (parent : Path) (stem : String) (scratch : Scratch) : Prop where
  named : ∃ n, scratch.path = parent.child (nameOf stem n)
  resolve : tree.resolve .name scratch.path = .ok (.vacant scratch.location)

/-- No spot has the name of a scratch directory. -/
def Clear (stem : String) (spot : Location → Prop) : Prop :=
  ∀ location n, spot location → location.getLast? ≠ some (nameOf stem n)

theorem getLast?_location (hstem : '/' ∉ stem.toList) {n : Nat} {place : Place}
    (hresolve : tree.resolve .name (parent.child (nameOf stem n)) = .ok place) :
    place.location.getLast? = some (nameOf stem n) := by
  obtain ⟨parts, hparts⟩ := Path.exists_parts_child parent (isPart_nameOf hstem n)
  have hwalk := (resolve_eq_ok_iff.mp hresolve).2
  rw [hparts] at hwalk
  exact hwalk.getLast?_location (isName_nameOf stem n)

namespace Fresh

variable (h : Fresh tree parent stem scratch)

include h

theorem exists_getLast? (hstem : '/' ∉ stem.toList) :
    ∃ n, scratch.location.getLast? = some (nameOf stem n) := by
  obtain ⟨n, hpath⟩ := h.named
  have hresolve := h.resolve
  rw [hpath] at hresolve
  exact ⟨n, getLast?_location hstem hresolve⟩

/-- A scratch directory is made in another directory. -/
theorem exists_parent (hwellFormed : tree.WellFormed) :
    ∃ parent name, scratch.location = parent ++ [name] ∧ tree.at? parent = some .directory ∧
      tree.at? scratch.location = none := by
  exact (resolve_eq_ok_iff.mp h.resolve).2.exists_parent (fun _ => hwellFormed.at?_dropLast)
    (hwellFormed.at?_base scratch.path) rfl

theorem location_ne_nil (hwellFormed : tree.WellFormed) : scratch.location ≠ [] := by
  obtain ⟨parent, name, hlocation, -⟩ := h.exists_parent hwellFormed
  simp [hlocation]

theorem vacant (hwellFormed : tree.WellFormed) : tree.at? scratch.location = none := by
  obtain ⟨-, -, -, -, hvacant⟩ := h.exists_parent hwellFormed
  exact hvacant

/-- Nothing stands in the place of a scratch directory or below it. -/
theorem vacant_below (hwellFormed : tree.WellFormed) {location : Location}
    (hbelow : scratch.location <+: location) : tree.at? location = none := by
  obtain ⟨below, rfl⟩ := hbelow
  by_cases hnil : below = []
  · rw [hnil, List.append_nil]
    exact h.vacant hwellFormed
  · refine hwellFormed.at?_below ?_ hnil
    rw [h.vacant hwellFormed]
    rfl

/-- The tree with the scratch directory. -/
theorem wellFormed_put (hwellFormed : tree.WellFormed) :
    (tree.put scratch.location .directory).WellFormed := by
  obtain ⟨parent, name, hlocation, hparent, hvacant⟩ := h.exists_parent hwellFormed
  refine hwellFormed.put (h.location_ne_nil hwellFormed) ?_ ?_ .directory
  · rw [hlocation, List.dropLast_concat]
    exact hparent
  · rw [hvacant]
    rfl

/-- **The path of a scratch directory leads there once it is made.** -/
theorem leads (hstem : '/' ∉ stem.toList) (hwellFormed : tree.WellFormed) :
    Leads (tree.put scratch.location .directory) scratch.path scratch.location := by
  obtain ⟨hfollow, hwalk⟩ := resolve_eq_ok_iff.mp h.resolve
  have hne := h.location_ne_nil hwellFormed
  refine ⟨hfollow.nonempty, hfollow.whole, fun hlast => ?_, ?_⟩
  · obtain ⟨n, hpath⟩ := h.named
    have hpart := isPart_nameOf hstem n
    obtain ⟨between, -, hbytes⟩ := Path.exists_bytes_child parent hpart.isAbsolute
    rw [hpath, hbytes, ← List.append_assoc,
      List.getLast?_append_of_ne_nil _ hpart.nonempty] at hlast
    exact hpart.slash_notMem (List.mem_of_getLast? hlast)
  · have hbase : (tree.put scratch.location .directory).base scratch.path =
        tree.base scratch.path := by
      rw [base, base, workingDirectory_put]
    rw [hbase]
    refine hwalk.filled ?_ fun location entry hat _ => ?_
    · rw [at?_put hne, if_pos rfl]
    · rw [at?_put hne, if_neg, hat]
      rintro rfl
      rw [h.vacant hwellFormed] at hat
      cases hat

theorem grows (hstem : '/' ∉ stem.toList) (hgrows : Grows tree spot grown)
    (hspot : Writable tree spot) (hclear : Clear stem spot) : Fresh grown parent stem scratch where
  named := h.named
  resolve := by
    refine hgrows.resolve hspot h.resolve fun hmem => ?_
    obtain ⟨n, hlast⟩ := h.exists_getLast? hstem
    exact hclear _ n hmem hlast

end Fresh

/-! ## Making one -/

theorem createFrom_eq_ok {tries n : Nat} {files : FileTree}
    (h : createFrom tree parent stem tries n = .ok (scratch, files)) :
    Fresh tree parent stem scratch ∧ files = tree.put scratch.location .directory := by
  induction tries generalizing n with
  | zero => cases h
  | succ tries ih =>
    rw [createFrom] at h
    split at h
    next location hresolve =>
      cases h
      exact ⟨⟨⟨n, rfl⟩, hresolve⟩, rfl⟩
    · exact ih h
    · cases h

theorem create_eq_ok {files : FileTree} (h : create tree parent stem = .ok (scratch, files)) :
    Fresh tree (tree.here.join parent) stem scratch ∧
      files = tree.put scratch.location .directory :=
  createFrom_eq_ok h

/-- The same name is found in a tree that grew, if no fewer names are tried there. -/
theorem createFrom_grows (hstem : '/' ∉ stem.toList) (hgrows : Grows tree spot grown)
    (hspot : Writable tree spot) (hclear : Clear stem spot) {tries tries' n : Nat}
    (htries : tries ≤ tries') {files : FileTree}
    (h : createFrom tree parent stem tries n = .ok (scratch, files)) :
    createFrom grown parent stem tries' n =
      .ok (scratch, grown.put scratch.location .directory) := by
  induction tries generalizing tries' n with
  | zero => cases h
  | succ tries ih =>
    obtain ⟨tries', rfl⟩ : ∃ k, tries' = k + 1 := ⟨tries' - 1, by omega⟩
    rw [createFrom] at h ⊢
    have hgrown : ∀ place, tree.resolve .name (parent.child (nameOf stem n)) = .ok place →
        grown.resolve .name (parent.child (nameOf stem n)) = .ok place := fun place hresolve =>
      hgrows.resolve hspot hresolve fun hmem =>
        hclear _ n hmem (getLast?_location hstem hresolve)
    split at h
    next location hresolve =>
      cases h
      rw [hgrown _ hresolve]
    next hresolve =>
      rw [hgrown _ hresolve]
      exact ih (by omega) h
    · cases h

/-- **Every tree that grew gets the same scratch directory.** -/
theorem create_grows (hstem : '/' ∉ stem.toList) (hwellFormed : tree.WellFormed)
    (hgrows : Grows tree spot grown) (hspot : Writable tree spot) (hclear : Clear stem spot)
    {files : FileTree} (h : create tree parent stem = .ok (scratch, files)) :
    create grown parent stem = .ok (scratch, grown.put scratch.location .directory) := by
  have hlength := hgrows.length_le hwellFormed
  rw [create] at h ⊢
  rw [here, hgrows.workingDirectory]
  exact createFrom_grows hstem hgrows hspot hclear (by omega) h

/-- Where none can be made, none can be made in a tree with the same entries either. -/
theorem create_error_of_reorders (h : Reorders tree grown) {cause : IoError}
    (hcreate : create tree parent stem = .error cause) :
    create grown parent stem = .error cause := by
  have hresolve : ∀ path, tree.resolve .name path = grown.resolve .name path := fun path => by
    rw [FileTree.resolve, FileTree.resolve, h.follow_eq]
  have hfrom : ∀ parent tries n, createFrom tree parent stem tries n = .error cause →
      createFrom grown parent stem tries n = .error cause := by
    intro parent tries n hfrom
    induction tries generalizing n with
    | zero => exact hfrom
    | succ tries ih =>
      rw [createFrom] at hfrom ⊢
      rw [← hresolve]
      split at hfrom
      · cases hfrom
      · exact ih _ hfrom
      · exact hfrom
  rw [create] at hcreate ⊢
  rw [here, ← h.workingDirectory, ← h.perm.length_eq]
  exact hfrom _ _ _ hcreate

/-! ## Work in one -/

/-- A tree after work in a scratch directory that left files in some spots, and no other trace
outside the scratch directory. -/
structure Leaves (tree : FileTree) (directory : Location) (spot : Location → Prop)
    (after : FileTree) : Prop where
  wellFormed : after.WellFormed
  workingDirectory : after.workingDirectory = tree.workingDirectory
  elsewhere : ∀ location, ¬ spot location → ¬ directory <+: location →
    after.at? location = tree.at? location
  written : ∀ location, spot location →
    ∃ content mode, after.at? location = some (.file content mode)

theorem Leaves.trans {first later : FileTree} {directory : Location} {spot : Location → Prop}
    (h : Leaves tree directory (fun _ => False) first)
    (hlater : Leaves first directory spot later) :
    Leaves tree directory spot later where
  wellFormed := hlater.wellFormed
  workingDirectory := hlater.workingDirectory.trans h.workingDirectory
  elsewhere := fun location hnot hbelow =>
    (hlater.elsewhere location hnot hbelow).trans (h.elsewhere location id hbelow)
  written := hlater.written

/-- What stood in the tree before does not stand in a scratch directory, unless it has such a
name. -/
theorem Fresh.not_prefix_child (h : Fresh tree parent stem scratch) (hstem : '/' ∉ stem.toList)
    (hwellFormed : tree.WellFormed) {directory : Location} {entry : Entry} {name : Name}
    (hat : tree.at? directory = some entry) (hname : ∀ n, name ≠ nameOf stem n) :
    ¬ scratch.location <+: directory ++ [name] := by
  rw [List.prefix_concat_iff]
  rintro (heq | hbelow)
  · obtain ⟨n, hlast⟩ := h.exists_getLast? hstem
    rw [heq, List.getLast?_concat, Option.some.injEq] at hlast
    exact hname n hlast
  · rw [h.vacant_below hwellFormed hbelow] at hat
    cases hat

/-- **A scratch directory that is not worked in leaves nothing behind.** -/
theorem Fresh.discard_put (h : Fresh tree parent stem scratch) (hwellFormed : tree.WellFormed) :
    scratch.discard (tree.put scratch.location .directory) = tree := by
  have hne := h.location_ne_nil hwellFormed
  have hlookup : tree.entries.lookup scratch.location = none := by
    rw [← at?_of_ne_nil hne]
    exact h.vacant hwellFormed
  have houtside : ∀ item ∈ tree.entries, (!scratch.location.isPrefixOf item.1) = true := by
    rintro ⟨location, entry⟩ hmem
    rw [Bool.not_eq_true', ← Bool.not_eq_true, List.isPrefixOf_iff_prefix]
    intro hbelow
    have hat := (hwellFormed.at?_eq_some_iff (hwellFormed.nonempty _ hmem)).mpr hmem
    rw [h.vacant_below hwellFormed hbelow] at hat
    cases hat
  simp [discard, remove, FileTree.put, hlookup, List.filter_eq_self.mpr houtside]

/-- **Once the scratch directory is gone, nothing is left of the work in it but the files.** -/
theorem Fresh.grows_discard (h : Fresh tree parent stem scratch) (hstem : '/' ∉ stem.toList)
    (hwellFormed : tree.WellFormed) (hgrows : Grows tree spot grown) (hspot : Writable tree spot)
    (hclear : Clear stem spot) {own : Location → Prop} {after : FileTree}
    (hleaves : Leaves grown scratch.location own after)
    (hown : ∀ location, own location → ¬ scratch.location <+: location) :
    Grows tree (fun location => spot location ∨ own location) (scratch.discard after) := by
  have hgrown := h.grows hstem hgrows hspot hclear
  have hne := h.location_ne_nil hwellFormed
  have hat : ∀ location, (scratch.discard after).at? location =
      if scratch.location <+: location then none else after.at? location := fun location =>
    at?_remove hne location
  refine ⟨?_, hleaves.workingDirectory.trans hgrows.workingDirectory, ?_, ?_⟩
  · refine hleaves.wellFormed.remove hne fun hbelow => ?_
    rw [hleaves.workingDirectory] at hbelow
    have hworking := hgrows.wellFormed.workingDirectory
    rw [hgrown.vacant_below hgrows.wellFormed hbelow] at hworking
    cases hworking
  · intro location hnot
    rw [not_or] at hnot
    rw [hat]
    split
    next hbelow => exact (h.vacant_below hwellFormed hbelow).symm
    next hbelow =>
      rw [hleaves.elsewhere location hnot.2 hbelow, hgrows.elsewhere location hnot.1]
  · intro location hmem
    by_cases hmine : own location
    · rw [hat, if_neg (hown location hmine)]
      exact hleaves.written location hmine
    · obtain ⟨content, mode, hfile⟩ := hgrows.written location (hmem.resolve_right hmine)
      have hbelow : ¬ scratch.location <+: location := by
        intro hbelow
        rw [hgrown.vacant_below hgrows.wellFormed hbelow] at hfile
        cases hfile
      rw [hat, if_neg hbelow, hleaves.elsewhere location hmine hbelow]
      exact ⟨content, mode, hfile⟩

end FunctionSearch.Scratch
