import FunctionSearch.Proofs.Text.Delete
import FunctionSearch.Proofs.Text.Lines

/-!
# Cut texts

A text of which some pieces are kept and what stands between them is removed.

* `Cutting.exists_map_eq`: a text whose elements carry more is cut in the same places.
* `Cutting.exists_piece_of_infix`: if no element is repeated, what stands together and is kept
  element by element stands together in one of the pieces.
* `isFirstSplit_iff`: a pattern whose first element is not repeated in it is found first behind a
  text in which it does not occur.
* `exists_ofMark` and `OfMark.deleteAll_whole`: a mark is deleted by cutting it out wherever it is
  found.
-/

namespace FunctionSearch.Text

variable {α β : Type}

/-- What occurs in two texts put together, without an element of the first one, occurs in the
second one. -/
theorem infix_of_infix_append {w l r : List α} (h : w <:+: l ++ r) (hw : ∀ a ∈ w, a ∉ l) :
    w <:+: r := by
  induction l with
  | nil => exact h
  | cons b l ih =>
    have hb : b ∉ w := fun hmem => hw b hmem List.mem_cons_self
    obtain hnil | hrest := infix_append_cons (l := []) hb h
    · rw [List.infix_nil.mp hnil]
      exact List.nil_infix
    · exact ih hrest fun a ha hmem => hw a ha (List.mem_cons_of_mem b hmem)

/-- A cut text. -/
inductive Cutting (α : Type) where
  /-- A text of which nothing is removed. -/
  | rest (s : List α)
  /-- A piece that is kept, what is removed behind it, and the cut text that follows. -/
  | cut (kept removed : List α) (more : Cutting α)
  deriving DecidableEq, Repr

namespace Cutting

/-- The text that is cut. -/
def whole : Cutting α → List α
  | rest s => s
  | cut kept removed more => kept ++ removed ++ more.whole

/-- The pieces that are kept. -/
def pieces : Cutting α → List (List α)
  | rest s => [s]
  | cut kept _ more => kept :: more.pieces

/-- The text that is left. -/
def left (cutting : Cutting α) : List α :=
  cutting.pieces.flatten

/-- The cut text of the images. -/
def map (f : α → β) : Cutting α → Cutting β
  | rest s => rest (s.map f)
  | cut kept removed more => cut (kept.map f) (removed.map f) (more.map f)

/-- Whether something is removed wherever the text is cut. -/
def Proper : Cutting α → Prop
  | rest _ => True
  | cut _ removed more => removed ≠ [] ∧ more.Proper

@[simp] theorem whole_rest (s : List α) : (rest s).whole = s := rfl

@[simp] theorem left_rest (s : List α) : (rest s).left = s := List.flatten_singleton

@[simp] theorem whole_cut (kept removed : List α) (more : Cutting α) :
    (cut kept removed more).whole = kept ++ removed ++ more.whole := rfl

@[simp] theorem left_cut (kept removed : List α) (more : Cutting α) :
    (cut kept removed more).left = kept ++ more.left := rfl

theorem whole_map (f : α → β) (cutting : Cutting α) :
    (cutting.map f).whole = cutting.whole.map f := by
  induction cutting with
  | rest s => rfl
  | cut kept removed more ih => simp [map, ih]

theorem pieces_map (f : α → β) (cutting : Cutting α) :
    (cutting.map f).pieces = cutting.pieces.map (List.map f) := by
  induction cutting with
  | rest s => rfl
  | cut kept removed more ih => simp [map, pieces, ih]

theorem left_map (f : α → β) (cutting : Cutting α) :
    (cutting.map f).left = cutting.left.map f := by
  rw [left, left, pieces_map, List.map_flatten]

theorem proper_map_iff (f : α → β) {cutting : Cutting α} :
    (cutting.map f).Proper ↔ cutting.Proper := by
  induction cutting with
  | rest s => rfl
  | cut kept removed more ih => simp [map, Proper, ih]

/-- **A text whose elements carry more is cut in the same places.** -/
theorem exists_map_eq {f : α → β} {cutting : Cutting β} {s : List α}
    (h : cutting.whole = s.map f) : ∃ traced : Cutting α, traced.map f = cutting ∧
      traced.whole = s := by
  induction cutting generalizing s with
  | rest t =>
    obtain rfl : t = s.map f := h
    exact ⟨rest s, rfl, rfl⟩
  | cut kept removed more ih =>
    obtain ⟨front, behind, rfl, hfront, hbehind⟩ := List.append_eq_map_iff.mp h
    obtain ⟨kept, removed, rfl, rfl, rfl⟩ := List.append_eq_map_iff.mp hfront.symm
    obtain ⟨traced, rfl, rfl⟩ := ih hbehind.symm
    exact ⟨cut kept removed traced, rfl, rfl⟩

theorem left_sublist_whole (cutting : Cutting α) : cutting.left.Sublist cutting.whole := by
  induction cutting with
  | rest s =>
    rw [left_rest]
    exact List.Sublist.refl s
  | cut kept removed more ih =>
    rw [left_cut, whole_cut]
    exact (List.sublist_append_left kept removed).append ih

/-- A cut text of which everything is left is not cut at all. -/
theorem eq_rest_of_left_eq {cutting : Cutting α} (hproper : cutting.Proper)
    (h : cutting.left = cutting.whole) : cutting = rest cutting.whole := by
  cases cutting with
  | rest s => rfl
  | cut kept removed more =>
    have hle := more.left_sublist_whole.length_le
    have hpos := List.length_pos_iff.mpr hproper.1
    have hlength := congrArg List.length h
    simp only [left_cut, whole_cut, List.length_append] at hlength
    omega

/-! ## What is kept stands together in a piece -/

variable {w : List α}

/-- What stands together and is kept stands in the first piece, or in what follows the first cut. -/
theorem infix_kept_or {kept removed : List α} {more : Cutting α}
    (hnodup : (cut kept removed more).whole.Nodup) (hremoved : removed ≠ [])
    (hw : w <:+: (cut kept removed more).whole) (hleft : w ⊆ (cut kept removed more).left) :
    w <:+: kept ∨ (w <:+: more.whole ∧ w ⊆ more.left) := by
  rw [whole_cut, List.append_assoc] at hnodup hw
  rw [left_cut] at hleft
  obtain ⟨-, hbehind, hkept⟩ := List.nodup_append.mp hnodup
  obtain ⟨-, -, hdisjoint⟩ := List.nodup_append.mp hbehind
  have hmore := more.left_sublist_whole.subset
  -- no element that is removed is kept
  have hgone : ∀ a ∈ w, a ∉ removed := by
    intro a ha hmem
    obtain hfront | hleft := List.mem_append.mp (hleft ha)
    · exact hkept a hfront a (List.mem_append_left _ hmem) rfl
    · exact hdisjoint a hmem a (hmore hleft) rfl
  obtain ⟨b, removed, rfl⟩ := List.exists_cons_of_ne_nil hremoved
  have hb : b ∉ w := fun hmem => hgone b hmem List.mem_cons_self
  refine (infix_append_cons hb hw).imp_right fun hrest => ?_
  have hoccurs : w <:+: more.whole :=
    infix_of_infix_append hrest fun a ha hmem => hgone a ha (List.mem_cons_of_mem b hmem)
  refine ⟨hoccurs, fun a ha => (List.mem_append.mp (hleft ha)).resolve_left fun hfront => ?_⟩
  exact hkept a hfront a (List.mem_append_right _ (hoccurs.subset ha)) rfl

/-- **What stands together and is kept stands together in one of the pieces**, if no element is
repeated. -/
theorem exists_piece_of_infix {cutting : Cutting α} (hnodup : cutting.whole.Nodup)
    (hproper : cutting.Proper) (hw : w <:+: cutting.whole) (hleft : w ⊆ cutting.left) :
    ∃ piece ∈ cutting.pieces, w <:+: piece := by
  induction cutting with
  | rest s => exact ⟨s, List.mem_singleton_self s, hw⟩
  | cut kept removed more ih =>
    obtain hkept | ⟨hmore, hmoreLeft⟩ := infix_kept_or hnodup hproper.1 hw hleft
    · exact ⟨kept, List.mem_cons_self, hkept⟩
    · have hnodup' := (List.nodup_append.mp hnodup).2.1
      obtain ⟨piece, hpiece, hoccurs⟩ := ih hnodup' hproper.2 hmore hmoreLeft
      exact ⟨piece, List.mem_cons_of_mem kept hpiece, hoccurs⟩

theorem infix_left_of_infix {cutting : Cutting α} (hnodup : cutting.whole.Nodup)
    (hproper : cutting.Proper) (hw : w <:+: cutting.whole) (hleft : w ⊆ cutting.left) :
    w <:+: cutting.left := by
  obtain ⟨piece, hpiece, hoccurs⟩ := exists_piece_of_infix hnodup hproper hw hleft
  exact hoccurs.trans (List.infix_of_mem_flatten hpiece)

end Cutting

/-! ## Patterns with their first element once -/

/-- A pattern whose first element is not repeated in it. -/
def BeginsOnce (pattern : List α) : Prop :=
  ∃ a rest, pattern = a :: rest ∧ a ∉ rest

theorem BeginsOnce.ne_nil {pattern : List α} (h : BeginsOnce pattern) : pattern ≠ [] := by
  obtain ⟨a, rest, rfl, -⟩ := h
  exact List.cons_ne_nil a rest

/-- **Such a pattern is found first behind a text in which it does not occur.** -/
theorem isFirstSplit_iff {pattern s p q : List α} (h : BeginsOnce pattern) :
    IsFirstSplit pattern s p q ↔ s = p ++ pattern ++ q ∧ ¬ pattern <:+: p := by
  constructor
  · intro hfirst
    exact ⟨hfirst.eq, hfirst.not_isInfix h.ne_nil⟩
  · rintro ⟨rfl, hnot⟩
    refine ⟨rfl, fun p' q' heq => ?_⟩
    by_contra hlt
    rw [List.append_assoc, List.append_assoc] at heq
    obtain ⟨t, rfl, -⟩ | ⟨t, rfl, ht⟩ := List.append_eq_append_iff.mp heq
    · simp at hlt
    · obtain ⟨u, rfl, -⟩ | ⟨u, hpattern, hu⟩ := List.append_eq_append_iff.mp ht
      · exact hnot ⟨p', u, by simp⟩
      · -- the other occurrence reaches into this one, which begins with the first element once more
        obtain ⟨a, rest, rfl, ha⟩ := h
        rcases t with _ | ⟨b, t⟩
        · simp at hlt
        · obtain ⟨rfl, rfl⟩ := List.cons_eq_cons.mp hpattern
          rcases u with _ | ⟨c, u⟩
          · exact hnot ⟨p', [], by simp⟩
          · obtain ⟨rfl, -⟩ := List.cons_eq_cons.mp hu
            exact ha (by simp)

/-! ## Marks that are cut out -/

/-- A cut text of which nothing but a mark is removed, and the mark wherever it is found. -/
inductive OfMark (mark : List α) : Cutting α → Prop
  | rest {s : List α} (hnot : ¬ mark <:+: s) : OfMark mark (.rest s)
  | cut {kept : List α} {more : Cutting α} (hkept : ¬ mark <:+: kept) (hmore : OfMark mark more) :
    OfMark mark (.cut kept mark more)

namespace OfMark

variable {mark : List α} {cutting : Cutting α}

theorem proper (h : OfMark mark cutting) (hmark : mark ≠ []) : cutting.Proper := by
  induction h with
  | rest => trivial
  | cut _ _ ih => exact ⟨hmark, ih⟩

/-- No piece holds the mark. -/
theorem not_infix (h : OfMark mark cutting) {piece : List α} (hpiece : piece ∈ cutting.pieces) :
    ¬ mark <:+: piece := by
  induction h with
  | rest hnot => exact List.mem_singleton.mp hpiece ▸ hnot
  | cut hkept _ ih =>
    obtain rfl | hmore := List.mem_cons.mp hpiece
    · exact hkept
    · exact ih hmore

/-- **What is left is the text less the mark.** -/
theorem deleteAll_whole [BEq α] [LawfulBEq α] (h : OfMark mark cutting) (hmark : BeginsOnce mark) :
    deleteAll mark cutting.whole = cutting.left := by
  induction h with
  | rest hnot => rw [Cutting.left_rest, Cutting.whole_rest,
      deleteAll_of_none (splitFirst?_eq_none_iff.mpr hnot)]
  | @cut kept more hkept _ ih =>
    have hfirst : IsFirstSplit mark (kept ++ mark ++ more.whole) kept more.whole :=
      (isFirstSplit_iff hmark).mpr ⟨rfl, hkept⟩
    rw [Cutting.left_cut, Cutting.whole_cut,
      deleteAll_of_some hmark.ne_nil (splitFirst?_eq_some_iff.mpr hfirst), ih]

end OfMark

/-- **Every text can be cut so.** -/
theorem exists_ofMark [BEq α] [LawfulBEq α] {mark : List α} (hmark : BeginsOnce mark)
    (s : List α) : ∃ cutting, OfMark mark cutting ∧ cutting.whole = s := by
  have hsplit := isSplit_splitAll hmark.ne_nil s
  generalize splitAll mark s = pieces at hsplit
  induction hsplit with
  | whole hnot => exact ⟨_, .rest hnot, rfl⟩
  | cut hfirst _ ih =>
    obtain ⟨more, hmore, rfl⟩ := ih
    obtain ⟨rfl, hkept⟩ := (isFirstSplit_iff hmark).mp hfirst
    exact ⟨_, .cut hkept hmore, rfl⟩

section Delete

variable [BEq α] [LawfulBEq α] {mark : List α} (hmark : BeginsOnce mark) {s : List α}

include hmark

theorem deleteAll_sublist : (deleteAll mark s).Sublist s := by
  obtain ⟨cutting, hcutting, rfl⟩ := exists_ofMark hmark s
  rw [hcutting.deleteAll_whole hmark]
  exact cutting.left_sublist_whole

/-- **Nothing is deleted exactly from a text without the mark.** -/
theorem deleteAll_eq_self_iff : deleteAll mark s = s ↔ ¬ mark <:+: s := by
  obtain ⟨cutting, hcutting, rfl⟩ := exists_ofMark hmark s
  rw [hcutting.deleteAll_whole hmark]
  constructor
  · intro h
    rw [Cutting.eq_rest_of_left_eq (hcutting.proper hmark.ne_nil) h] at hcutting
    exact hcutting.not_infix (List.mem_singleton_self _)
  · intro h
    rw [← hcutting.deleteAll_whole hmark]
    exact deleteAll_of_none (splitFirst?_eq_none_iff.mpr h)

end Delete

end FunctionSearch.Text
