import FunctionSearch.Proofs.Text.Blank
import FunctionSearch.Proofs.Text.Cutting
import FunctionSearch.Scoring.Verdict

/-!
# Spans

What stands between an opening and the next closing is removed from an answer, both included, and
nothing else is.

* `OfSpans` says how a text is cut into what is kept and its spans, `exists_ofSpans` that every text
  can be cut so, and `OfSpans.unique` that it can be cut so in one way only.
* `OfSpans.dropSpans_whole`: what is left then is the text less its spans.
* `dropSpans_eq_self_iff` and `deleteMarks_eq_self_iff`: which texts lose nothing.
* `clean_eq_iff`: an answer is cleaned by cutting out its spans and one mark after the other, and
  the blanks around what is left.
-/

namespace FunctionSearch.Scoring

open Text

/-! ## One span at a time -/

theorem dropSpansFrom_eq (kept : List (List Char)) (s : List Char) :
    (dropSpansFrom kept s).flatten = kept.reverse.flatten ++ dropSpans s := by
  induction hn : s.length using Nat.strong_induction_on generalizing kept s with
  | _ n ih =>
    rw [dropSpans, dropSpansFrom, dropSpansFrom]
    split
    · simp
    · next hopen =>
      split
      · simp
      · next hclose =>
        have hinside := length_lt_of_splitFirst? hopen (by decide)
        have hafter := length_lt_of_splitFirst? hclose (by decide)
        rw [ih _ (hn ▸ hafter.trans hinside) _ _ rfl,
          ih _ (hn ▸ hafter.trans hinside) [_] _ rfl]
        simp

theorem dropSpans_of_open_none {s : List Char} (h : splitFirst? spanOpen s = none) :
    dropSpans s = s := by
  rw [dropSpans, dropSpansFrom]
  split
  · simp
  · next hopen => cases h.symm.trans hopen

theorem dropSpans_of_close_none {s before inside : List Char}
    (hopen : splitFirst? spanOpen s = some (before, inside))
    (hclose : splitFirst? spanClose inside = none) : dropSpans s = s := by
  rw [dropSpans, dropSpansFrom]
  split
  · simp
  · next hopen' =>
    obtain ⟨rfl, rfl⟩ := Prod.mk.inj (Option.some.inj (hopen.symm.trans hopen'))
    split
    · simp
    · next hclose' => cases hclose.symm.trans hclose'

theorem dropSpans_of_span {s before inside within after : List Char}
    (hopen : splitFirst? spanOpen s = some (before, inside))
    (hclose : splitFirst? spanClose inside = some (within, after)) :
    dropSpans s = before ++ dropSpans after := by
  rw [dropSpans, dropSpansFrom]
  split
  · next hopen' => cases hopen.symm.trans hopen'
  · next hopen' =>
    obtain ⟨rfl, rfl⟩ := Prod.mk.inj (Option.some.inj (hopen.symm.trans hopen'))
    split
    · next hclose' => cases hclose.symm.trans hclose'
    · next hclose' =>
      obtain ⟨rfl, rfl⟩ := Prod.mk.inj (Option.some.inj (hclose.symm.trans hclose'))
      rw [dropSpansFrom_eq]
      simp

/-! ## Cutting out the spans -/

/-- Whether a closing follows an opening. -/
def HoldsSpan (s : List Char) : Prop :=
  ∃ within, spanOpen ++ within ++ spanClose <:+: s

/-- A text that is cut into spans and what is kept of it: no opening stands in front of a span but
its own, no closing in a span but its own, and there is no span in the rest. -/
inductive OfSpans : Cutting Char → Prop
  | rest {s : List Char} (hnone : ¬ HoldsSpan s) : OfSpans (.rest s)
  | span {kept within : List Char} {more : Cutting Char} (hkept : ¬ spanOpen <:+: kept)
    (hwithin : ¬ spanClose <:+: within) (hmore : OfSpans more) :
    OfSpans (.cut kept (spanOpen ++ within ++ spanClose) more)

theorem beginsOnce_spanOpen : BeginsOnce spanOpen := ⟨'[', "INST]".toList, rfl, by decide⟩

theorem beginsOnce_spanClose : BeginsOnce spanClose := ⟨'[', "/INST]".toList, rfl, by decide⟩

theorem HoldsSpan.infix_spanOpen {s : List Char} (h : HoldsSpan s) : spanOpen <:+: s := by
  obtain ⟨within, hspan⟩ := h
  rw [List.append_assoc] at hspan
  exact (List.prefix_append spanOpen _).isInfix.trans hspan

/-- Whether there is a span shows behind the first opening. -/
theorem holdsSpan_iff {s before inside : List Char} (h : IsFirstSplit spanOpen s before inside) :
    HoldsSpan s ↔ spanClose <:+: inside := by
  constructor
  · rintro ⟨within, front, behind, hs⟩
    have hle := h.le front (within ++ spanClose ++ behind) (by simp [← hs])
    have heq : before ++ spanOpen ++ inside =
        front ++ spanOpen ++ (within ++ spanClose ++ behind) := by
      rw [← h.eq, ← hs]
      simp
    obtain ⟨t, -, hinside⟩ | ⟨t, hfront, hinside⟩ := List.append_eq_append_iff.mp heq
    · exact ⟨t ++ within, behind, by simp [hinside]⟩
    · have hlength := congrArg List.length hfront
      simp only [List.length_append] at hlength
      obtain rfl : t = [] := List.eq_nil_of_length_eq_zero (by omega)
      exact ⟨within, behind, hinside⟩
  · rintro ⟨within, behind, rfl⟩
    exact ⟨within, before, behind, by simp [h.eq]⟩

/-- A text without spans stays as it is. -/
theorem dropSpans_of_not_holdsSpan {s : List Char} (h : ¬ HoldsSpan s) : dropSpans s = s := by
  cases hopen : splitFirst? spanOpen s with
  | none => exact dropSpans_of_open_none hopen
  | some split =>
    obtain ⟨before, inside⟩ := split
    rw [holdsSpan_iff (splitFirst?_eq_some_iff.mp hopen)] at h
    exact dropSpans_of_close_none hopen (splitFirst?_eq_none_iff.mpr h)

namespace OfSpans

variable {cutting cutting' : Cutting Char}

/-- The opening and the closing of a span are the first ones. -/
theorem isFirstSplit_of_span {kept within : List Char} (hkept : ¬ spanOpen <:+: kept)
    (hwithin : ¬ spanClose <:+: within) (after : List Char) :
    IsFirstSplit spanOpen (kept ++ (spanOpen ++ within ++ spanClose) ++ after) kept
        (within ++ spanClose ++ after) ∧
      IsFirstSplit spanClose (within ++ spanClose ++ after) within after :=
  ⟨(isFirstSplit_iff beginsOnce_spanOpen).mpr ⟨by simp, hkept⟩,
    (isFirstSplit_iff beginsOnce_spanClose).mpr ⟨rfl, hwithin⟩⟩

/-- **A text is cut into its spans in one way only.** -/
theorem unique (h : OfSpans cutting) (h' : OfSpans cutting')
    (hwhole : cutting.whole = cutting'.whole) : cutting = cutting' := by
  have hholds : ∀ (kept within : List Char) (more : Cutting Char) (s : List Char),
      s = (Cutting.cut kept (spanOpen ++ within ++ spanClose) more).whole → HoldsSpan s :=
    fun kept within more _ h => ⟨within, kept, more.whole, h.symm⟩
  induction h generalizing cutting' with
  | rest hnone =>
    cases h' with
    | rest => exact congrArg Cutting.rest hwhole
    | span => exact absurd (hholds _ _ _ _ hwhole) hnone
  | @span kept within more hkept hwithin _ ih =>
    cases h' with
    | rest hnone => exact absurd (hholds _ _ _ _ hwhole.symm) hnone
    | @span kept' within' more' hkept' hwithin' hmore' =>
      obtain ⟨hopen, hclose⟩ := isFirstSplit_of_span hkept hwithin more.whole
      obtain ⟨hopen', hclose'⟩ := isFirstSplit_of_span hkept' hwithin' more'.whole
      rw [Cutting.whole_cut, Cutting.whole_cut] at hwhole
      rw [hwhole] at hopen
      obtain ⟨rfl, hinside⟩ := hopen.unique hopen'
      rw [hinside] at hclose
      obtain ⟨rfl, hmore⟩ := hclose.unique hclose'
      rw [ih hmore' hmore]

theorem proper (h : OfSpans cutting) : cutting.Proper := by
  induction h with
  | rest => trivial
  | span _ _ _ ih =>
    have hopen := List.append_ne_nil_of_left_ne_nil beginsOnce_spanOpen.ne_nil
    exact ⟨List.append_ne_nil_of_left_ne_nil (hopen _) spanClose, ih⟩

/-- The first span of a cut text. -/
theorem of_cut {kept removed : List Char} {more : Cutting Char}
    (h : OfSpans (.cut kept removed more)) : ¬ spanOpen <:+: kept ∧ OfSpans more := by
  cases h with
  | span hkept _ hmore => exact ⟨hkept, hmore⟩

/-- **What is left is the text less its spans.** -/
theorem dropSpans_whole (h : OfSpans cutting) : dropSpans cutting.whole = cutting.left := by
  induction h with
  | rest hnone => rw [Cutting.whole_rest, Cutting.left_rest, dropSpans_of_not_holdsSpan hnone]
  | @span kept within more hkept hwithin _ ih =>
    obtain ⟨hopen, hclose⟩ := isFirstSplit_of_span hkept hwithin more.whole
    rw [Cutting.whole_cut, Cutting.left_cut,
      dropSpans_of_span (splitFirst?_eq_some_iff.mpr hopen) (splitFirst?_eq_some_iff.mpr hclose),
      ih]

end OfSpans

/-- **Every text can be cut into its spans.** -/
theorem exists_ofSpans (s : List Char) : ∃ cutting, OfSpans cutting ∧ cutting.whole = s := by
  induction hn : s.length using Nat.strong_induction_on generalizing s with
  | _ n ih =>
    cases hopen : splitFirst? spanOpen s with
    | none =>
      have hnone : ¬ HoldsSpan s := fun h => splitFirst?_eq_none_iff.mp hopen h.infix_spanOpen
      exact ⟨_, .rest hnone, rfl⟩
    | some split =>
      obtain ⟨before, inside⟩ := split
      have hfirst := splitFirst?_eq_some_iff.mp hopen
      cases hclose : splitFirst? spanClose inside with
      | none =>
        have hnone : ¬ HoldsSpan s := by
          rw [holdsSpan_iff hfirst]
          exact splitFirst?_eq_none_iff.mp hclose
        exact ⟨_, .rest hnone, rfl⟩
      | some split =>
        obtain ⟨within, after⟩ := split
        have hinside := length_lt_of_splitFirst? hopen (by decide)
        have hafter := length_lt_of_splitFirst? hclose (by decide)
        obtain ⟨more, hmore, rfl⟩ := ih _ (hn ▸ hafter.trans hinside) after rfl
        obtain ⟨rfl, hkept⟩ := (isFirstSplit_iff beginsOnce_spanOpen).mp hfirst
        obtain ⟨rfl, hwithin⟩ := (isFirstSplit_iff beginsOnce_spanClose).mp
          (splitFirst?_eq_some_iff.mp hclose)
        exact ⟨_, .span hkept hwithin hmore, by simp⟩

theorem dropSpans_sublist (s : List Char) : (dropSpans s).Sublist s := by
  obtain ⟨cutting, hcutting, rfl⟩ := exists_ofSpans s
  rw [hcutting.dropSpans_whole]
  exact cutting.left_sublist_whole

/-- **Nothing is removed exactly from a text without spans.** -/
theorem dropSpans_eq_self_iff {s : List Char} : dropSpans s = s ↔ ¬ HoldsSpan s := by
  refine ⟨fun h => ?_, dropSpans_of_not_holdsSpan⟩
  obtain ⟨cutting, hcutting, rfl⟩ := exists_ofSpans s
  rw [hcutting.dropSpans_whole] at h
  rw [Cutting.eq_rest_of_left_eq hcutting.proper h] at hcutting
  cases hcutting with
  | rest hnone => exact hnone

/-! ## Cleaning -/

/-- A text less every mark of a list, one after the other. -/
def deleteMarks (list : List (List Char)) (s : List Char) : List Char :=
  list.foldl (fun s mark => deleteAll mark s) s

theorem deleteMarks_sublist {list : List (List Char)} (hlist : ∀ mark ∈ list, BeginsOnce mark)
    (s : List Char) : (deleteMarks list s).Sublist s := by
  induction list generalizing s with
  | nil => exact List.Sublist.refl s
  | cons mark list ih =>
    obtain ⟨hmark, hlist⟩ := List.forall_mem_cons.mp hlist
    exact (ih hlist (deleteAll mark s)).trans (deleteAll_sublist hmark)

/-- Nothing is deleted exactly from a text without the marks. -/
theorem deleteMarks_eq_self_iff {list : List (List Char)}
    (hlist : ∀ mark ∈ list, BeginsOnce mark) {s : List Char} :
    deleteMarks list s = s ↔ ∀ mark ∈ list, ¬ mark <:+: s := by
  induction list with
  | nil => simp [deleteMarks]
  | cons mark list ih =>
    obtain ⟨hmark, hlist⟩ := List.forall_mem_cons.mp hlist
    have hcons : deleteMarks (mark :: list) s = deleteMarks list (deleteAll mark s) := rfl
    rw [List.forall_mem_cons, ← ih hlist, ← deleteAll_eq_self_iff hmark, hcons]
    constructor
    · intro h
      have hsublist := deleteMarks_sublist hlist (deleteAll mark s)
      rw [h] at hsublist
      have hdelete : deleteAll mark s = s := (deleteAll_sublist hmark).antisymm hsublist
      rw [hdelete] at h
      exact ⟨hdelete, h⟩
    · intro ⟨hdelete, hrest⟩
      rw [hdelete, hrest]

theorem cleanChars_eq (s : List Char) : cleanChars s = trim (deleteMarks marks (dropSpans s)) := rfl

theorem beginsOnce_of_mem_marks {mark : List Char} (h : mark ∈ marks) : BeginsOnce mark := by
  simp only [marks, List.mem_cons, List.not_mem_nil, or_false] at h
  obtain rfl | rfl | rfl := h
  · exact ⟨'<', "s>".toList, rfl, by decide⟩
  · exact ⟨'<', "/s>".toList, rfl, by decide⟩
  · exact ⟨'E', "xplanation:".toList, rfl, by decide⟩

/-- **An answer is cleaned in four steps, which are told by what they cut out.** The answer is cut
into its spans, in the only way in which this can be done. From what is left, the two sequence marks
and the label are cut out, one after the other, and then the blanks at its ends. -/
theorem clean_eq_iff (raw : String) :
    ∃ spans : Cutting Char, (OfSpans spans ∧ spans.whole = raw.toList ∧
        ∀ other, OfSpans other → other.whole = raw.toList → other = spans) ∧
      ∀ cleaned, clean raw = cleaned ↔
        ∃ starts ends labels : Cutting Char,
          (OfMark "<s>".toList starts ∧ starts.whole = spans.left) ∧
          (OfMark "</s>".toList ends ∧ ends.whole = starts.left) ∧
          (OfMark "Explanation:".toList labels ∧ labels.whole = ends.left) ∧
          Trims labels.left cleaned.toList := by
  obtain ⟨spans, hspans, hwhole⟩ := exists_ofSpans raw.toList
  have hmarks : ∀ mark ∈ marks, BeginsOnce mark := fun _ => beginsOnce_of_mem_marks
  simp only [marks, List.forall_mem_cons] at hmarks
  obtain ⟨hstart, hend, hlabel, -⟩ := hmarks
  -- whatever is cut out, the functions that delete compute what is left
  have hclean : ∀ {starts ends labels : Cutting Char},
      OfMark "<s>".toList starts ∧ starts.whole = spans.left →
      OfMark "</s>".toList ends ∧ ends.whole = starts.left →
      OfMark "Explanation:".toList labels ∧ labels.whole = ends.left →
      clean raw = String.ofList (trim labels.left) := by
    intro starts ends labels ⟨hstarts, hstartsWhole⟩ ⟨hends, hendsWhole⟩ ⟨hlabels, hlabelsWhole⟩
    rw [clean, cleanChars_eq, ← hwhole, hspans.dropSpans_whole, ← hlabels.deleteAll_whole hlabel,
      hlabelsWhole, ← hends.deleteAll_whole hend, hendsWhole, ← hstarts.deleteAll_whole hstart,
      hstartsWhole]
    rfl
  refine ⟨spans, ⟨hspans, hwhole, fun other hother heq => ?_⟩, fun cleaned => ⟨fun h => ?_, ?_⟩⟩
  · exact hother.unique hspans (heq.trans hwhole.symm)
  · obtain ⟨starts, hstarts⟩ := exists_ofMark hstart spans.left
    obtain ⟨ends, hends⟩ := exists_ofMark hend starts.left
    obtain ⟨labels, hlabels⟩ := exists_ofMark hlabel ends.left
    refine ⟨starts, ends, labels, hstarts, hends, hlabels, trim_eq_iff.mp ?_⟩
    rw [← h, hclean hstarts hends hlabels, String.toList_ofList]
  · rintro ⟨starts, ends, labels, hstarts, hends, hlabels, htrims⟩
    rw [hclean hstarts hends hlabels, trim_eq_iff.mpr htrims, String.ofList_toList]

/-- A span may hold a line feed, and an opening that is never closed is kept. -/
example : clean "<s>7[INST]a\nb[/INST]\nc[INST]" = "7\nc[INST]" := by decide +kernel

end FunctionSearch.Scoring
