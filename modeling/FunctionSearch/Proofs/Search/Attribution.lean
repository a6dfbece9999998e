import FunctionSearch.Proofs.Artifact.Name
import FunctionSearch.Proofs.Decompiler.Batch
import FunctionSearch.Proofs.Text.Utf8
import FunctionSearch.Search.Run

/-!
# Which functions are scored

Whether a function is scored should depend on what became of the binary that it belongs to. The
search has only the names of the files to go by: it files a function under the part of the name in
front of the first separator, and drops what is filed under the name of a failed binary.

* `Leftover` is a file that a binary left, named as the artifact of one of its functions, and
  `filedUnder` the name under which a binary's functions are filed.
* `run_eq_scoreRecords` says which leftovers are scored at the end of a whole search.
* `handedOver_iff_isDecompiled_iff` says exactly when these are the ones of decompiled binaries: the
  names must tell the binaries of either kind apart (`Tells`). Names that are read as they are and
  that no two binaries share do.
* A name with an underscore at its end is not read as it is (`leak_of_trailing_underscore`).
-/

namespace FunctionSearch.Search

open Artifact

/-! ## Leftovers -/

/-- A file in the output directory that holds a function of a binary, with the report on that
binary. -/
structure Leftover where
  writer : BinaryReport
  function : String
  epoch : UInt64
  code : Bytes
  mode : Mode

namespace Leftover

/-- The name of the file. -/
def name (w : Leftover) : Name :=
  Text.bytes (fileName w.writer.binary.fileNameText w.function w.epoch.toNat)

/-- The entry of the output directory. -/
def entry (w : Leftover) : Name × Entry :=
  (w.name, .file w.code w.mode)

/-- Whether the file can be read in a tree, from the output directory. -/
def Reads (tree : FileTree) (output : Path) (w : Leftover) : Prop :=
  tree.read (output.child w.name) = .ok w.code

instance (tree : FileTree) (output : Path) (w : Leftover) : Decidable (w.Reads tree output) :=
  inferInstanceAs (Decidable (_ = _))

end Leftover

/-- The name under which the functions of a binary are filed. -/
def filedUnder (binary : Path) : String :=
  String.ofList (splitBinary binary.fileNameText).1

/-- The function that is read from a leftover. -/
def Leftover.record (w : Leftover) : FunctionRecord where
  binary := filedUnder w.writer.binary
  function := String.ofList
    ((splitBinary w.writer.binary.fileNameText).2 ++ (sanitize w.function).toList)
  code := Text.lossy w.code

theorem sanitize_ne_empty {name : String} (h : name ≠ "") : (sanitize name).toList ≠ [] := by
  simpa [toList_sanitize] using h

theorem readEntry_entry {tree : FileTree} {directory : Path} {w : Leftover}
    (h : w.function ≠ "") (hread : w.Reads tree directory) :
    readEntry tree directory w.entry =
      if filedUnder w.writer.binary = "" then
        some (.inr ⟨directory.child w.name, Defect.emptyBinary.reason⟩)
      else some (.inl w.record) := by
  have hfunction : ((splitBinary w.writer.binary.fileNameText).2 ++
      (sanitize w.function).toList).isEmpty = false := by
    simp [sanitize_ne_empty h]
  have hfiled : filedUnder w.writer.binary = "" ↔
      (splitBinary w.writer.binary.fileNameText).1.isEmpty = true := by
    simp [filedUnder]
  have hparse : parse? (Text.lossy w.name) =
      if (splitBinary w.writer.binary.fileNameText).1.isEmpty = true then .error .emptyBinary
      else .ok ⟨w.record.binary, w.record.function, some w.epoch.toNat⟩ := by
    rw [Leftover.name, Text.lossy_bytes, parse?_fileName _ _ (toNat_lt_epochBound w.epoch),
      hfunction]
    rfl
  rw [Leftover.entry, readEntry, readFile, hparse, hread]
  by_cases hbinary : filedUnder w.writer.binary = ""
  · rw [if_pos hbinary, if_pos (hfiled.mp hbinary)]
  · rw [if_neg hbinary, if_neg (mt hfiled.mpr hbinary)]
    rfl

/-- The functions in a directory of leftovers are those that are filed under a name. -/
theorem records_ofEntries {tree : FileTree} {directory : Path} {left : List Leftover}
    (h : ∀ w ∈ left, w.function ≠ "") (hread : ∀ w ∈ left, w.Reads tree directory) :
    (Corpus.ofEntries tree directory (left.map Leftover.entry)).records =
      (left.filter (filedUnder ·.writer.binary != "")).map Leftover.record := by
  induction left with
  | nil => rfl
  | cons w left ih =>
    rw [List.forall_mem_cons] at h hread
    have hrest := ih h.2 hread.2
    have hw := readEntry_entry h.1 hread.1
    simp only [Corpus.ofEntries, List.map_cons] at hrest ⊢
    by_cases hfiled : filedUnder w.writer.binary = ""
    · rw [if_pos hfiled] at hw
      simp only [List.filterMap_cons_some hw, List.filterMap_cons, Sum.elim_inr, hrest]
      rw [List.filter_cons_of_neg (by simp [hfiled])]
    · rw [if_neg hfiled] at hw
      simp only [List.filterMap_cons_some hw, List.filterMap_cons, Sum.elim_inl, hrest]
      rw [List.filter_cons_of_pos (by simp [hfiled]), List.map_cons]

/-! ## Failed binaries -/

/-- Whether some failed binary of a batch has this name. -/
def HasFailed (report : BatchReport) (program : String) : Prop :=
  ∃ item ∈ report.binaries, item.outcome.isFailure = true ∧
    programName? item.binary = some program

theorem mem_failedPrograms {report : BatchReport} {program : String} :
    program ∈ (report.binaries.filterMap FailedBinary.ofReport?).filterMap
        (fun item => programName? item.binary) ↔ HasFailed report program := by
  simp only [List.mem_filterMap, HasFailed]
  constructor
  · rintro ⟨failed, ⟨item, hitem, hfailed⟩, hname⟩
    obtain ⟨binary, outcome⟩ := item
    cases outcome with
    | failed error =>
      obtain rfl := Option.some.inj hfailed
      exact ⟨_, hitem, rfl, hname⟩
    | decompiled _ => cases hfailed
    | duplicate _ => cases hfailed
  · rintro ⟨⟨binary, outcome⟩, hitem, hfailure, hname⟩
    cases outcome with
    | failed error => exact ⟨_, ⟨_, hitem, rfl⟩, hname⟩
    | decompiled _ => cases hfailure
    | duplicate _ => cases hfailure

instance (report : BatchReport) (program : String) : Decidable (HasFailed report program) :=
  decidable_of_iff _ mem_failedPrograms

/-- A leftover that is scored: it is filed under a name, and no failed binary has that name. -/
def HandedOver (report : BatchReport) (w : Leftover) : Prop :=
  filedUnder w.writer.binary ≠ "" ∧ ¬ HasFailed report (filedUnder w.writer.binary)

instance (report : BatchReport) (w : Leftover) : Decidable (HandedOver report w) :=
  inferInstanceAs (Decidable (_ ∧ _))

theorem keep_map_record (report : BatchReport) (left : List Leftover) :
    keep (report.binaries.filterMap FailedBinary.ofReport?)
        ((left.filter (filedUnder ·.writer.binary != "")).map Leftover.record) =
      (left.filter (HandedOver report ·)).map Leftover.record := by
  rw [keep, List.filter_map, List.filter_filter]
  refine congrArg (List.map Leftover.record) (List.filter_congr fun w _ => ?_)
  rw [Bool.eq_iff_iff, decide_eq_true_iff, HandedOver, ← mem_failedPrograms]
  simp only [Function.comp_apply, Leftover.record, Bool.and_eq_true, Bool.not_eq_true',
    ← Bool.not_eq_true, List.contains_iff_mem, bne_iff_ne, ne_eq, and_comm]

/-! ## Whole searches -/

theorem loadOutput_of_list {tree : FileTree} {output : Path} {entries : List (Name × Entry)}
    (h : tree.list output = .ok entries) :
    loadOutput tree output = .ok (.ofEntries tree output entries) := by
  have hdirectory : tree.isDirectory output = true := by
    simp only [FileTree.list, bind, Except.bind] at h
    rw [FileTree.isDirectory]
    split at h
    · cases h
    · next place hplace =>
      rw [hplace]
      obtain ⟨location, entry⟩ := place
      cases entry with
      | directory => rfl
      | file _ _ => cases h
      | link _ => cases h
  rw [loadOutput, if_pos hdirectory, Corpus.load, h]
  rfl

variable {σ : Type}

/-- **What is scored at the end of a whole search.** -/
theorem run_eq_scoreRecords (search : Search σ) (target : Path) (description : String)
    {output : Path} {world after : World σ} {batch : Batch.Run} {left : List Leftover}
    (hempty : checkOutput world.files output = .ok ())
    (hbatch : Batch.decompileTarget search.decompiler target output world = (.ok batch, after))
    (hlist : after.files.list output = .ok (left.map Leftover.entry))
    (hfunction : ∀ w ∈ left, w.function ≠ "")
    (hread : ∀ w ∈ left, w.Reads after.files output) :
    search.run target description output world =
      search.scoreRecords target description batch
        (.ofEntries after.files output (left.map Leftover.entry))
        ((left.filter (HandedOver batch.report ·)).map Leftover.record) after := by
  simp only [run, hempty, hbatch, scoreOutput, loadOutput_of_list hlist]
  rw [records_ofEntries hfunction hread, keep_map_record]

/-! ## Names that tell -/

/-- What became of a binary can be told from the name under which its functions are filed: those of
a decompiled binary are filed under a name that no failed binary has, and those of any other binary
under the name of a failed one or under none. -/
def Tells (report : BatchReport) (item : BinaryReport) : Prop :=
  if item.outcome.isDecompiled = true then
    filedUnder item.binary ≠ "" ∧ ¬ HasFailed report (filedUnder item.binary)
  else filedUnder item.binary = "" ∨ HasFailed report (filedUnder item.binary)

/-- The name that a binary has in the names of its artifacts is read as it is. -/
structure IsPlain (binary : Path) : Prop where
  nonempty : sanitize binary.fileNameText ≠ ""
  noSeparator : ¬ separator <:+: (sanitize binary.fileNameText).toList
  noUnderscore : (sanitize binary.fileNameText).toList.getLast? ≠ some '_'

theorem IsPlain.filedUnder_eq {binary : Path} (h : IsPlain binary) :
    filedUnder binary = sanitize binary.fileNameText := by
  rw [filedUnder, (splitBinary_eq_iff _).mpr ⟨h.noSeparator, h.noUnderscore⟩, String.ofList_toList]

theorem IsPlain.programName?_eq {binary : Path} (h : IsPlain binary) :
    programName? binary = some (sanitize binary.fileNameText) := by
  have hname := h.nonempty
  rw [Path.fileNameText] at hname ⊢
  rw [programName?]
  cases hlast : binary.fileName? with
  | some name => rfl
  | none =>
    rw [hlast] at hname
    exact absurd (by decide +kernel) hname

/-- Plain names tell, if no decompiled binary has the name of a failed one. -/
theorem tells_of_isPlain {report : BatchReport} {item : BinaryReport}
    (hmem : item ∈ report.binaries) (hduplicate : item.outcome.isDuplicate = false)
    (hplain : ∀ item ∈ report.binaries, IsPlain item.binary)
    (hdistinct : ∀ a ∈ report.binaries, ∀ b ∈ report.binaries, a.outcome.isDecompiled = true →
      b.outcome.isFailure = true →
      sanitize a.binary.fileNameText ≠ sanitize b.binary.fileNameText) :
    Tells report item := by
  have hfiled := (hplain item hmem).filedUnder_eq
  rw [Tells, hfiled]
  cases hdecompiled : item.outcome.isDecompiled with
  | true =>
    rw [if_pos rfl]
    refine ⟨(hplain item hmem).nonempty, ?_⟩
    rintro ⟨other, hother, hfailure, hname⟩
    rw [(hplain other hother).programName?_eq] at hname
    exact hdistinct item hmem other hother hdecompiled hfailure (Option.some.inj hname).symm
  | false =>
    rw [if_neg (by decide)]
    have hfailure : item.outcome.isFailure = true := by
      cases houtcome : item.outcome with
      | failed _ => rfl
      | decompiled _ => simp [houtcome, BinaryOutcome.isDecompiled] at hdecompiled
      | duplicate _ => simp [houtcome, BinaryOutcome.isDuplicate] at hduplicate
    exact .inr ⟨item, hmem, hfailure, (hplain item hmem).programName?_eq⟩

theorem handedOver_iff_iff_tells {report : BatchReport} {w : Leftover} :
    (HandedOver report w ↔ w.writer.outcome.isDecompiled = true) ↔ Tells report w.writer := by
  rw [HandedOver, Tells]
  split_ifs with h
  · simp [h]
  · simp [h, or_iff_not_imp_left]

/-- **Exactly the functions of decompiled binaries are scored if and only if the names tell.** -/
theorem handedOver_iff_isDecompiled_iff (search : Search σ) (target : Path) (description : String)
    {output : Path} {world after : World σ} {batch : Batch.Run} {left : List Leftover}
    (hempty : checkOutput world.files output = .ok ())
    (hbatch : Batch.decompileTarget search.decompiler target output world = (.ok batch, after))
    (hlist : after.files.list output = .ok (left.map Leftover.entry))
    (hfunction : ∀ w ∈ left, w.function ≠ "")
    (hread : ∀ w ∈ left, w.Reads after.files output)
    (hwriter : ∀ w ∈ left, w.writer ∈ batch.report.binaries ∧
      w.writer.outcome.isDuplicate = false) :
    ∃ handed : List Leftover, handed.Sublist left ∧
      search.run target description output world =
        search.scoreRecords target description batch
          (.ofEntries after.files output (left.map Leftover.entry))
          (handed.map Leftover.record) after ∧
      ((∀ w ∈ left, w ∈ handed ↔ w.writer.outcome.isDecompiled = true) ↔
        ∀ w ∈ left, Tells batch.report w.writer) ∧
      ((∀ item ∈ batch.report.binaries, IsPlain item.binary) →
        (∀ a ∈ batch.report.binaries, ∀ b ∈ batch.report.binaries,
          a.outcome.isDecompiled = true → b.outcome.isFailure = true →
          sanitize a.binary.fileNameText ≠ sanitize b.binary.fileNameText) →
        ∀ w ∈ left, w ∈ handed ↔ w.writer.outcome.isDecompiled = true) := by
  have hhanded : ∀ w ∈ left, (w ∈ left.filter (HandedOver batch.report ·) ↔
      w.writer.outcome.isDecompiled = true) ↔ Tells batch.report w.writer := by
    intro w hw
    rw [← handedOver_iff_iff_tells, List.mem_filter, decide_eq_true_iff]
    simp only [hw, true_and]
  refine ⟨_, List.filter_sublist, run_eq_scoreRecords search target description hempty hbatch hlist
    hfunction hread, forall₂_congr hhanded, fun hplain hdistinct w hw => ?_⟩
  obtain ⟨hmem, hduplicate⟩ := hwriter w hw
  exact (hhanded w hw).mpr (tells_of_isPlain hmem hduplicate hplain hdistinct)

/-! ## A search with failures -/

/-- A decompiler that leaves the function `f` of every binary, and then fails with some of them. -/
def leaving (fails : List String) : Decompiler Unit where
  name := "leaving"
  decompile binary output world :=
    let program := binary.fileNameText
    let path := output.sub (fileName program "f" 1)
    match world.files.ensureDirectory output >>= (·.write path (Text.bytes "code")) with
    | .error cause => (.error (.io path cause), world)
    | .ok files =>
      if fails.contains program then (.error (.noOutput program), { world with files })
      else (.ok ⟨binary, "", 1, ⟨0⟩⟩, { world with files })

/-- A world with one directory, and files of different contents in it. -/
def folderWorld (names : List String) : World Unit where
  files := ⟨([Text.bytes "in"], .directory) :: names.zipIdx.map fun (name, i) =>
    ([Text.bytes "in", Text.bytes name], .file [UInt8.ofNat i] false), []⟩
  clock := ⟨0⟩
  outside := ()

/-- The leftover of a binary in that directory with which the decompiler fails. -/
def leftByFailed (name : String) : Leftover where
  writer := ⟨.ofString ("in/" ++ name), .failed (.noOutput name)⟩
  function := "f"
  epoch := 1
  code := Text.bytes "code"
  mode := ⟨true, false⟩

/-- The leftover of a binary in that directory which is decompiled. -/
def leftByDecompiled (name : String) : Leftover where
  writer := ⟨.ofString ("in/" ++ name), .decompiled ⟨.ofString ("in/" ++ name), "", 1, ⟨0⟩⟩⟩
  function := "f"
  epoch := 1
  code := Text.bytes "code"
  mode := ⟨true, false⟩

/-- The batch of a decompiler over two binaries with plain names. -/
def batchOfTwo (decompiler : Decompiler Unit) : Batch.Run × World Unit :=
  Batch.decompileAll decompiler [.ofString "in/a", .ofString "in/b"] (.ofString "out")
    (folderWorld ["a", "b"])

theorem decompileTarget_two (decompiler : Decompiler Unit) :
    Batch.decompileTarget decompiler (.ofString "in") (.ofString "out")
      (folderWorld ["a", "b"]) = (.ok (batchOfTwo decompiler).1, (batchOfTwo decompiler).2) := by
  have hfiles : Batch.filesOf (folderWorld ["a", "b"]).files (.ofString "in") =
      .ok [.ofString "in/a", .ofString "in/b"] := by
    have hlist : (folderWorld ["a", "b"]).files.list (.ofString "in") =
        .ok [(Text.bytes "a", .file [0] false), (Text.bytes "b", .file [1] false)] := by
      decide +kernel
    refine (Batch.filesOf_of_pairwise hlist (by decide +kernel)).trans ?_
    decide +kernel
  rw [Batch.decompileTarget, if_pos (by decide +kernel)]
  simp only [Batch.decompileFolder, hfiles, batchOfTwo]

/-- The batch in which the first of them fails. -/
def mixedBatch : Batch.Run × World Unit :=
  batchOfTwo (leaving ["a"])

theorem decompileTarget_mixed :
    Batch.decompileTarget (leaving ["a"]) (.ofString "in") (.ofString "out")
      (folderWorld ["a", "b"]) = (.ok mixedBatch.1, mixedBatch.2) :=
  decompileTarget_two (leaving ["a"])

/-- A search with this decompiler and a model that says nothing. -/
def leavingSearch (fails : List String) : Search Unit where
  decompiler := leaving fails
  backend := { name := "silent", complete := fun _ world => (.error .emptyResponse, world) }
  retries := 0

/-- Two binaries with plain names, of which one fails. -/
theorem handedOver_iff_isDecompiled_iff_mixed :
    checkOutput (folderWorld ["a", "b"]).files (.ofString "out") = .ok () ∧
    mixedBatch.2.files.list (.ofString "out") =
      .ok ([leftByFailed "a", leftByDecompiled "b"].map Leftover.entry) ∧
    ∃ handed : List Leftover, handed.Sublist [leftByFailed "a", leftByDecompiled "b"] ∧
      (leavingSearch ["a"]).run (.ofString "in") "rc4" (.ofString "out") (folderWorld ["a", "b"]) =
        (leavingSearch ["a"]).scoreRecords (.ofString "in") "rc4" mixedBatch.1
          (.ofEntries mixedBatch.2.files (.ofString "out")
            ([leftByFailed "a", leftByDecompiled "b"].map Leftover.entry))
          (handed.map Leftover.record) mixedBatch.2 ∧
      ∀ w ∈ [leftByFailed "a", leftByDecompiled "b"],
        w ∈ handed ↔ w.writer.outcome.isDecompiled = true := by
  have hempty : checkOutput (folderWorld ["a", "b"]).files (.ofString "out") = .ok () := by
    decide +kernel
  have hlist : mixedBatch.2.files.list (.ofString "out") =
      .ok ([leftByFailed "a", leftByDecompiled "b"].map Leftover.entry) := by
    decide +kernel
  have hreport : mixedBatch.1.report.binaries =
      [(leftByFailed "a").writer, (leftByDecompiled "b").writer] := by
    decide +kernel
  have ha : IsPlain (leftByFailed "a").writer.binary :=
    ⟨by decide +kernel, by decide +kernel, by decide +kernel⟩
  have hb : IsPlain (leftByDecompiled "b").writer.binary :=
    ⟨by decide +kernel, by decide +kernel, by decide +kernel⟩
  obtain ⟨handed, hsublist, hrun, -, hplain⟩ :=
    handedOver_iff_isDecompiled_iff (leavingSearch ["a"]) (.ofString "in") "rc4" hempty
      decompileTarget_mixed hlist (by decide +kernel) (by decide +kernel)
      (by rw [hreport]; decide +kernel)
  refine ⟨hempty, hlist, handed, hsublist, hrun, hplain ?_ ?_⟩
  · rw [hreport]
    simp only [List.forall_mem_cons]
    exact ⟨ha, hb, List.forall_mem_nil _⟩
  · rw [hreport]
    decide +kernel

/-- **Partial output of a failed binary is scored if its name ends in an underscore.** The function
`f` of the binary `a_` is filed as the function `_f` of a binary `a`. -/
theorem leak_of_trailing_underscore :
    checkOutput (folderWorld ["a_"]).files (.ofString "out") = .ok () ∧
    ¬ separator <:+: (leftByFailed "a_").writer.binary.fileNameText.toList ∧
    (leftByFailed "a_").writer.outcome.isFailure = true ∧
    ∃ batch after,
      Batch.decompileTarget (leaving ["a_"]) (.ofString "in") (.ofString "out")
        (folderWorld ["a_"]) = (.ok batch, after) ∧
      batch.report.binaries = [(leftByFailed "a_").writer] ∧
      after.files.list (.ofString "out") = .ok [(leftByFailed "a_").entry] ∧
      (leavingSearch ["a_"]).run (.ofString "in") "rc4" (.ofString "out") (folderWorld ["a_"]) =
        (leavingSearch ["a_"]).scoreRecords (.ofString "in") "rc4" batch
          (.ofEntries after.files (.ofString "out") [(leftByFailed "a_").entry])
          [⟨"a", "_f", "code"⟩] after := by
  have hempty : checkOutput (folderWorld ["a_"]).files (.ofString "out") = .ok () := by
    decide +kernel
  have hfst : (Batch.decompileTarget (leaving ["a_"]) (.ofString "in") (.ofString "out")
      (folderWorld ["a_"])).1 =
        .ok ⟨⟨[(leftByFailed "a_").writer]⟩, [⟨1, 1, (leftByFailed "a_").writer⟩]⟩ := by
    decide +kernel
  have hlist : (Batch.decompileTarget (leaving ["a_"]) (.ofString "in") (.ofString "out")
      (folderWorld ["a_"])).2.files.list (.ofString "out") =
        .ok ([leftByFailed "a_"].map Leftover.entry) := by
    decide +kernel
  have hhanded : ([leftByFailed "a_"].filter
      (HandedOver ⟨[(leftByFailed "a_").writer]⟩ ·)).map Leftover.record =
        [⟨"a", "_f", "code"⟩] := by
    decide +kernel
  refine ⟨hempty, by decide +kernel, rfl, _, _, Prod.ext hfst rfl, rfl, hlist, ?_⟩
  rw [← hhanded]
  exact run_eq_scoreRecords (leavingSearch ["a_"]) (.ofString "in") "rc4" hempty (Prod.ext hfst rfl)
    hlist (by decide +kernel) (by decide +kernel)

end FunctionSearch.Search
