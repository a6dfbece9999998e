import FunctionSearch.Proofs.Scoring.Spans

/-!
# What cleaning leaves over

An answer is cleaned in one pass over each kind of thing that is removed. What is removed brings
together what stood on its two sides, so that a mark or a span may be left that was not there
before.

* `Cleaned` is what a cleaned answer should be, and `cleanChars_eq_self_iff` says that these are the
  answers that do not change when they are cleaned.
* `Remains` follows every character of an answer through the four passes.
* `Unjoined` says that what reads as a mark or a tag at the end was written as one.
* `clean_complete_iff`: an answer is cleaned as it should be exactly then.
* `clean_incomplete`: answers that are not.
-/

namespace FunctionSearch.Scoring

open Text

/-! ## Answers that do not change -/

/-- An answer of which nothing is left to be removed. -/
structure Cleaned (s : List Char) : Prop where
  noMark : ∀ mark ∈ marks, ¬ mark <:+: s
  noSpan : ¬ HoldsSpan s
  isTrimmed : IsTrimmed s

/-- **The answers that cleaning does not change are those of which nothing is left to be
removed.** -/
theorem cleanChars_eq_self_iff {s : List Char} : cleanChars s = s ↔ Cleaned s := by
  have hmarks : ∀ mark ∈ marks, BeginsOnce mark := fun _ => beginsOnce_of_mem_marks
  rw [cleanChars_eq]
  constructor
  · intro h
    have hlast : s.Sublist (deleteMarks marks (dropSpans s)) := by
      have hoccurs := isInfix_trim (deleteMarks marks (dropSpans s))
      rw [h] at hoccurs
      exact hoccurs.sublist
    have hdrop : dropSpans s = s :=
      (dropSpans_sublist s).antisymm (hlast.trans (deleteMarks_sublist hmarks _))
    rw [hdrop] at h hlast
    have hdelete : deleteMarks marks s = s := (deleteMarks_sublist hmarks s).antisymm hlast
    rw [hdelete, trim_eq_self_iff] at h
    exact ⟨(deleteMarks_eq_self_iff hmarks).mp hdelete, dropSpans_eq_self_iff.mp hdrop, h⟩
  · intro h
    rw [dropSpans_eq_self_iff.mpr h.noSpan, (deleteMarks_eq_self_iff hmarks).mpr h.noMark,
      trim_eq_self_iff.mpr h.isTrimmed]

theorem isTrimmed_of_mem_marks : ∀ mark ∈ marks, IsTrimmed mark := by
  decide

/-- The blanks around a text hide no span. -/
theorem holdsSpan_trim_iff {s : List Char} : HoldsSpan (trim s) ↔ HoldsSpan s := by
  have hopen : IsTrimmed spanOpen := by decide
  have hclose : IsTrimmed spanClose := by decide
  refine exists_congr fun within => infix_trim_iff ?_
  rw [List.append_assoc]
  exact hopen.append hclose (by decide) (by decide) within

/-- A trimmed text is cleaned exactly if there is no mark and no span in the text. -/
theorem cleaned_trim_iff {s : List Char} :
    Cleaned (trim s) ↔ (∀ mark ∈ marks, ¬ mark <:+: s) ∧ ¬ HoldsSpan s := by
  have hmarks : (∀ mark ∈ marks, ¬ mark <:+: trim s) ↔ ∀ mark ∈ marks, ¬ mark <:+: s :=
    forall₂_congr fun mark hmark => not_congr (infix_trim_iff (isTrimmed_of_mem_marks mark hmark))
  rw [← hmarks, ← holdsSpan_trim_iff]
  exact ⟨fun h => ⟨h.noMark, h.noSpan⟩, fun ⟨hmark, hspan⟩ => ⟨hmark, hspan, isTrimmed_trim s⟩⟩

/-! ## Characters with their places -/

/-- What remains of a text, each character with its place, when it is cut by some rules, one after
the other. -/
inductive Remains : List (Cutting Char → Prop) → List (Char × Nat) → List (Char × Nat) → Prop
  | all {s : List (Char × Nat)} : Remains [] s s
  | cut {rule : Cutting Char → Prop} {rules : List (Cutting Char → Prop)}
    {cutting : Cutting (Char × Nat)} {t : List (Char × Nat)} (hrule : rule (cutting.map Prod.fst))
    (hrest : Remains rules cutting.left t) : Remains (rule :: rules) cutting.whole t

theorem exists_remains {rules : List (Cutting Char → Prop)}
    (hrules : ∀ rule ∈ rules, ∀ s, ∃ cutting, rule cutting ∧ cutting.whole = s)
    (s : List (Char × Nat)) : ∃ t, Remains rules s t := by
  induction rules generalizing s with
  | nil => exact ⟨s, .all⟩
  | cons rule rules ih =>
    obtain ⟨hrule, hrules⟩ := List.forall_mem_cons.mp hrules
    obtain ⟨cutting, hcutting, hwhole⟩ := hrule (s.map Prod.fst)
    obtain ⟨traced, rfl, rfl⟩ := Cutting.exists_map_eq hwhole
    obtain ⟨t, ht⟩ := ih hrules traced.left
    exact ⟨t, .cut hcutting ht⟩

theorem Remains.sublist {rules : List (Cutting Char → Prop)} {s t : List (Char × Nat)}
    (h : Remains rules s t) : t.Sublist s := by
  induction h with
  | all => exact List.Sublist.refl _
  | cut _ _ ih => exact ih.trans (Cutting.left_sublist_whole _)

theorem remains_cons_iff {rule : Cutting Char → Prop} {rules : List (Cutting Char → Prop)}
    {s t : List (Char × Nat)} : Remains (rule :: rules) s t ↔
      ∃ cutting : Cutting (Char × Nat), rule (cutting.map Prod.fst) ∧ cutting.whole = s ∧
        Remains rules cutting.left t := by
  constructor
  · intro h
    cases h with
    | cut hrule hrest => exact ⟨_, hrule, rfl, hrest⟩
  · rintro ⟨cutting, hrule, rfl, hrest⟩
    exact .cut hrule hrest

/-- The order of the places. -/
def Ordered (s : List (Char × Nat)) : Prop :=
  s.Pairwise (·.2 < ·.2)

theorem ordered_zipIdx (s : List Char) : Ordered s.zipIdx := by
  rw [Ordered, ← List.pairwise_map (f := Prod.snd) (R := (· < ·)), List.zipIdx_map_snd]
  exact List.pairwise_lt_range'

theorem Ordered.nodup {s : List (Char × Nat)} (h : Ordered s) : s.Nodup :=
  h.imp fun hlt heq => absurd (congrArg Prod.snd heq) (Nat.ne_of_lt hlt)

/-- What stands together behind something else that stands together in an ordered text. -/
theorem Ordered.exists_infix {s opening closing : List (Char × Nat)} (h : Ordered s)
    (hopening : opening <:+: s) (hclosing : closing <:+: s) (hne : opening ≠ [])
    (hbefore : ∀ a ∈ opening, ∀ b ∈ closing, a.2 < b.2) :
    ∃ within, opening ++ within ++ closing <:+: s := by
  obtain ⟨front, behind, rfl⟩ := hopening
  obtain ⟨a, ha⟩ := List.exists_mem_of_ne_nil opening hne
  obtain ⟨-, -, hfront⟩ := List.pairwise_append.mp (List.pairwise_append.mp h).1
  -- whatever stands in front of the closing or in it comes too early to be in the closing
  have hearly : ∀ b ∈ closing, b ∉ front ++ opening := by
    intro b hb hmem
    obtain hmem | hmem := List.mem_append.mp hmem
    · exact absurd (hbefore a ha b hb) (Nat.lt_asymm (hfront b hmem a ha))
    · exact absurd (hbefore b hmem b hb) (Nat.lt_irrefl _)
  obtain ⟨within, rest, rfl⟩ := infix_of_infix_append hclosing hearly
  exact ⟨within, front, rest, by simp⟩

/-! ## What is left over -/

/-- No mark that is cut out remains, if it stood together. -/
theorem Remains.not_infix {list : List (List Char)} (hlist : ∀ mark ∈ list, mark ≠ [])
    {s t w : List (Char × Nat)} (h : Remains (list.map OfMark) s t) (hnodup : s.Nodup)
    (hmark : w.map Prod.fst ∈ list) (hoccurs : w <:+: s) : ¬ w ⊆ t := by
  intro hsubset
  induction list generalizing s with
  | nil => cases hmark
  | cons mark list ih =>
    obtain ⟨hne, hlist⟩ := List.forall_mem_cons.mp hlist
    obtain ⟨cutting, hrule, rfl, hrest⟩ := remains_cons_iff.mp h
    have hproper : cutting.Proper := (Cutting.proper_map_iff Prod.fst).mp (hrule.proper hne)
    have hleft : w ⊆ cutting.left := List.Subset.trans hsubset hrest.sublist.subset
    obtain ⟨piece, hpiece, hin⟩ := Cutting.exists_piece_of_infix hnodup hproper hoccurs hleft
    obtain heq | hmem := List.mem_cons.mp hmark
    · have hmapped : piece.map Prod.fst ∈ (cutting.map Prod.fst).pieces := by
        rw [Cutting.pieces_map]
        exact List.mem_map_of_mem hpiece
      exact hrule.not_infix hmapped (heq ▸ hin.map Prod.fst)
    · exact ih hlist hrest (hnodup.sublist cutting.left_sublist_whole) hmem
        (hin.trans (List.infix_of_mem_flatten hpiece))

/-- No opening with a closing behind it remains of a text whose spans are cut out, if each of the
two stood together. -/
theorem not_before_of_ofSpans {cutting : Cutting (Char × Nat)}
    (hspans : OfSpans (cutting.map Prod.fst)) (hordered : Ordered cutting.whole)
    {opening closing : List (Char × Nat)} (hopening : opening.map Prod.fst = spanOpen)
    (hclosing : closing.map Prod.fst = spanClose) (hopeningIn : opening <:+: cutting.whole)
    (hclosingIn : closing <:+: cutting.whole) (hopeningLeft : opening ⊆ cutting.left)
    (hclosingLeft : closing ⊆ cutting.left) :
    ¬ ∀ a ∈ opening, ∀ b ∈ closing, a.2 < b.2 := by
  intro hbefore
  have hne : opening ≠ [] := by
    rintro rfl
    cases hopening
  have hne' : closing ≠ [] := by
    rintro rfl
    cases hclosing
  induction cutting with
  | rest s =>
    cases hspans with
    | rest hnone =>
      obtain ⟨within, hwithin⟩ := hordered.exists_infix hopeningIn hclosingIn hne hbefore
      refine hnone ⟨within.map Prod.fst, ?_⟩
      rw [← hopening, ← hclosing, ← List.map_append, ← List.map_append]
      exact hwithin.map Prod.fst
  | cut kept removed more ih =>
    obtain ⟨hkept, hmore⟩ := hspans.of_cut
    have hremoved : removed ≠ [] :=
      ((Cutting.proper_map_iff Prod.fst).mp hspans.proper).1
    obtain hin | ⟨hopeningIn, hopeningLeft⟩ :=
      Cutting.infix_kept_or hordered.nodup hremoved hopeningIn hopeningLeft
    · exact hkept (hopening ▸ hin.map Prod.fst)
    obtain ⟨-, hbehind, hacross⟩ := List.pairwise_append.mp hordered
    obtain hin | ⟨hclosingIn, hclosingLeft⟩ :=
      Cutting.infix_kept_or hordered.nodup hremoved hclosingIn hclosingLeft
    · -- the closing stands in front of the span, and the opening behind it
      obtain ⟨a, ha⟩ := List.exists_mem_of_ne_nil opening hne
      obtain ⟨b, hb⟩ := List.exists_mem_of_ne_nil closing hne'
      have hlt := hacross b (List.mem_append_left _ (hin.subset hb)) a (hopeningIn.subset ha)
      exact absurd (hbefore a ha b hb) (Nat.lt_asymm hlt)
    · exact ih hmore hbehind hopeningIn hclosingIn hopeningLeft hclosingLeft

/-- By what an answer is cut, in this order. -/
def cleaningRules : List (Cutting Char → Prop) :=
  OfSpans :: marks.map OfMark

theorem exists_remains_cleaningRules (s : List (Char × Nat)) : ∃ t, Remains cleaningRules s t := by
  refine exists_remains (List.forall_mem_cons.mpr ⟨exists_ofSpans, ?_⟩) s
  rw [List.forall_mem_map]
  exact fun mark hmark => exists_ofMark (beginsOnce_of_mem_marks hmark)

theorem deleteMarks_of_remains {list : List (List Char)}
    (hlist : ∀ mark ∈ list, BeginsOnce mark) {s t : List (Char × Nat)}
    (h : Remains (list.map OfMark) s t) : deleteMarks list (s.map Prod.fst) = t.map Prod.fst := by
  induction list generalizing s with
  | nil =>
    cases h
    rfl
  | cons mark list ih =>
    obtain ⟨hmark, hlist⟩ := List.forall_mem_cons.mp hlist
    obtain ⟨cutting, hrule, rfl, hrest⟩ := remains_cons_iff.mp h
    rw [← ih hlist hrest, ← Cutting.left_map, ← hrule.deleteAll_whole hmark, Cutting.whole_map]
    rfl

/-- **What remains is what the functions that delete compute.** -/
theorem cleanChars_of_remains {s t : List (Char × Nat)} (h : Remains cleaningRules s t) :
    cleanChars (s.map Prod.fst) = trim (t.map Prod.fst) := by
  obtain ⟨cutting, hspans, rfl, hrest⟩ := remains_cons_iff.mp h
  rw [← deleteMarks_of_remains (fun _ => beginsOnce_of_mem_marks) hrest, cleanChars_eq,
    ← Cutting.whole_map, hspans.dropSpans_whole, Cutting.left_map]

/-- Whether all that reads as a mark in what remains, and all that reads as an opening with a
closing behind it, stood together before. -/
structure Unjoined (origin remaining : List (Char × Nat)) : Prop where
  mark : ∀ w, w.map Prod.fst ∈ marks → w <:+: remaining → w <:+: origin
  span : ∀ opening within closing, opening.map Prod.fst = spanOpen →
    closing.map Prod.fst = spanClose → opening ++ within ++ closing <:+: remaining →
    opening <:+: origin ∧ closing <:+: origin

/-- **No mark and no span is left exactly if none was joined.** -/
theorem unjoined_iff {origin remaining : List (Char × Nat)} (hordered : Ordered origin)
    (h : Remains cleaningRules origin remaining) :
    Unjoined origin remaining ↔ (∀ mark ∈ marks, ¬ mark <:+: remaining.map Prod.fst) ∧
      ¬ HoldsSpan (remaining.map Prod.fst) := by
  obtain ⟨cutting, hspans, rfl, hrest⟩ := remains_cons_iff.mp h
  have hproper : cutting.Proper := (Cutting.proper_map_iff Prod.fst).mp hspans.proper
  -- what stood together and remains is kept by the first cut
  have hkept : ∀ {w}, w <:+: remaining → w ⊆ cutting.left := fun hw =>
    List.Subset.trans hw.subset hrest.sublist.subset
  constructor
  · intro hunjoined
    refine ⟨fun mark hmark hin => ?_, fun ⟨within, hin⟩ => ?_⟩
    · obtain ⟨w, hw, rfl⟩ := List.infix_map_iff.mp hin
      have hleft := Cutting.infix_left_of_infix hordered.nodup hproper
        (hunjoined.mark w hmark hw) (hkept hw)
      exact hrest.not_infix (fun mark hmark => (beginsOnce_of_mem_marks hmark).ne_nil)
        (hordered.nodup.sublist cutting.left_sublist_whole) hmark hleft hw.subset
    · obtain ⟨w, hw, heq⟩ := List.infix_map_iff.mp hin
      obtain ⟨front, closing, rfl, hfront, hclosing⟩ := List.append_eq_map_iff.mp heq
      obtain ⟨opening, within, rfl, hopening, -⟩ := List.append_eq_map_iff.mp hfront.symm
      obtain ⟨hopeningIn, hclosingIn⟩ := hunjoined.span _ _ _ hopening hclosing hw
      have hopeningLeft := hkept (((List.prefix_append opening within).isInfix.trans
        (List.prefix_append _ closing).isInfix).trans hw)
      have hclosingLeft := hkept ((List.suffix_append (opening ++ within) closing).isInfix.trans hw)
      refine not_before_of_ofSpans hspans hordered hopening hclosing hopeningIn hclosingIn
        hopeningLeft hclosingLeft fun a ha b hb => ?_
      have hall : Ordered (opening ++ within ++ closing) :=
        hordered.sublist (hw.sublist.trans h.sublist)
      exact (List.pairwise_append.mp hall).2.2 a (List.mem_append_left _ ha) b hb
  · intro ⟨hmarks, hspan⟩
    refine ⟨fun w hmark hw => absurd (hw.map Prod.fst) (hmarks _ hmark), ?_⟩
    intro opening within closing hopening hclosing hw
    refine absurd ⟨within.map Prod.fst, ?_⟩ hspan
    rw [← hopening, ← hclosing, ← List.map_append, ← List.map_append]
    exact hw.map Prod.fst

/-- **How complete cleaning is.** A cleaned answer never begins or ends with a blank. It does not
change when it is cleaned again exactly if it holds no mark and no span. And so it is exactly if
none of those was joined: with every character followed through the four cuts, whatever reads as a
mark or as the tags of a span in what remains stood together in the answer. -/
theorem clean_complete_iff (raw : String) :
    IsTrimmed (clean raw).toList ∧
    (clean (clean raw) = clean raw ↔ Cleaned (clean raw).toList) ∧
    (∃ remaining, Remains cleaningRules raw.toList.zipIdx remaining) ∧
    ∀ remaining, Remains cleaningRules raw.toList.zipIdx remaining →
      (clean raw).toList = trim (remaining.map Prod.fst) ∧
      (Cleaned (clean raw).toList ↔ Unjoined raw.toList.zipIdx remaining) := by
  have htoList : (clean raw).toList = cleanChars raw.toList := by
    rw [clean, String.toList_ofList]
  refine ⟨?_, ?_, exists_remains_cleaningRules _, fun remaining h => ?_⟩
  · rw [htoList, cleanChars_eq]
    exact isTrimmed_trim _
  · rw [← cleanChars_eq_self_iff, ← String.toList_inj, clean, String.toList_ofList]
  · have hclean : (clean raw).toList = trim (remaining.map Prod.fst) := by
      rw [htoList, ← cleanChars_of_remains h, List.zipIdx_map_fst]
    refine ⟨hclean, ?_⟩
    rw [hclean, cleaned_trim_iff, unjoined_iff (ordered_zipIdx _) h]

/-- **Cleaning leaves over what it brings together**: a mark by deleting the same mark, a span by
deleting a mark, and a span by removing another one. Cleaning again changes the answer. -/
theorem clean_incomplete :
    (clean "<<s>s>4" = "<s>4" ∧ clean (clean "<<s>s>4") = "4") ∧
      clean "[IN<s>ST]a[/INST]5" = "[INST]a[/INST]5" ∧ HoldsSpan "[INST]a[/INST]5".toList ∧
      clean "[INS[INST]a[/INST]T]b[/INST]5" = "[INST]b[/INST]5" ∧
      clean (clean "[INS[INST]a[/INST]T]b[/INST]5") = "5" := by
  refine ⟨by decide +kernel, by decide +kernel, ⟨['a'], by decide⟩, by decide +kernel,
    by decide +kernel⟩

end FunctionSearch.Scoring
