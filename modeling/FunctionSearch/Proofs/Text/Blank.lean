import FunctionSearch.Text.Blank
import Mathlib.Data.List.DropRight
import Mathlib.Data.List.Infix

/-!
# Trimmed texts

* `trim_eq_nil_iff`: nothing is left of a text exactly if all of it is blank;
* `trim_append_of_blank`: blank characters in front of a text do not matter;
* `trim_append_of_not_blank`: others stay, with all that stands between them;
* `isInfix_trim`: what is left is a part of the text;
* `isTrimmed_trim`: what is left begins and ends with a character that is not blank;
* `trim_eq_self_iff`: and there is nothing to take from a text that does;
* `trim_eq_iff`: what is left is the trimmed text that stands between blank characters;
* `infix_trim_iff`: a trimmed text that occurs in the text occurs in what is left;
* `isTrimmed_spaced`: so do trimmed texts with a space between any two.
-/

namespace FunctionSearch.Text

/-- A text of blank characters only. -/
def Blank (s : List Char) : Prop :=
  ∀ c ∈ s, isBlank c = true

instance (s : List Char) : Decidable (Blank s) :=
  List.decidableBAll (isBlank · = true) s

theorem hasContent_eq_true_iff (s : List Char) : hasContent s = true ↔ ¬ Blank s := by
  simp [hasContent, Blank]

theorem trimEnd_eq_rdropWhile (s : List Char) : trimEnd s = s.rdropWhile isBlank := rfl

theorem not_isBlank_of_trimStart {s rest : List Char} {c : Char} (h : trimStart s = c :: rest) :
    isBlank c = false := by
  have hhead := List.head?_dropWhile_not isBlank s
  rw [← trimStart, h] at hhead
  exact hhead

/-- **Nothing is left of a text exactly if all of it is blank.** -/
theorem trim_eq_nil_iff {s : List Char} : trim s = [] ↔ Blank s := by
  rw [trim, trimEnd_eq_rdropWhile, List.rdropWhile_eq_nil_iff]
  constructor
  · intro h
    have hnil : trimStart s = [] := by
      cases hs : trimStart s with
      | nil => rfl
      | cons c rest =>
        have hblank : isBlank c = true := h c (by simp [hs])
        exact absurd hblank (by simp [not_isBlank_of_trimStart hs])
    exact List.dropWhile_eq_nil_iff.mp hnil
  · intro h
    rw [trimStart, List.dropWhile_eq_nil_iff.mpr h]
    exact fun _ hc => nomatch hc

/-- Blank characters in front of a text do not matter. -/
theorem trim_append_of_blank {s : List Char} (h : Blank s) (r : List Char) :
    trim (s ++ r) = trim r := by
  rw [trim, trim, trimStart, trimStart, List.dropWhile_append_of_pos h]

/-- A text between characters that are not blank stays as it is. -/
theorem trim_append_of_not_blank {s : List Char} {a b : Char} (hfirst : s.head? = some a)
    (ha : isBlank a = false) (hlast : s.getLast? = some b) (hb : isBlank b = false)
    (r : List Char) : trim (s ++ r) = s ++ trimEnd r := by
  have hstart : trimStart (s ++ r) = s ++ r := by
    obtain ⟨rest, rfl⟩ := List.head?_eq_some_iff.mp hfirst
    rw [trimStart, List.cons_append, List.dropWhile_cons_of_neg (by simp [ha])]
  obtain ⟨front, rfl⟩ := List.getLast?_eq_some_iff.mp hlast
  have hend : ([b] ++ front.reverse).dropWhile isBlank = [b] ++ front.reverse :=
    List.dropWhile_cons_of_neg (by simp [hb])
  rw [trim, hstart, trimEnd, trimEnd, List.reverse_append, List.dropWhile_append,
    List.reverse_concat, ← List.singleton_append, hend]
  split
  · next hempty => simp [List.isEmpty_iff.mp hempty]
  · simp

theorem isInfix_trim (s : List Char) : trim s <:+: s :=
  (List.rdropWhile_prefix isBlank (trimStart s)).isInfix.trans
    (List.dropWhile_suffix isBlank).isInfix

theorem not_isBlank_of_trim {s rest : List Char} {c : Char} (h : trim s = c :: rest) :
    isBlank c = false := by
  obtain ⟨t, ht⟩ : trim s <+: trimStart s := List.rdropWhile_prefix isBlank (trimStart s)
  rw [h, List.cons_append] at ht
  exact not_isBlank_of_trimStart ht.symm

theorem not_isBlank_of_getLast?_trim {s : List Char} {c : Char} (h : (trim s).getLast? = some c) :
    isBlank c = false := by
  rw [trim, trimEnd_eq_rdropWhile] at h
  obtain ⟨hne, rfl⟩ := List.mem_getLast?_eq_getLast h
  exact eq_false_of_ne_true (List.rdropWhile_last_not isBlank (trimStart s) hne)

/-! ## Trimmed texts -/

/-- A text without blank characters at its ends. -/
structure IsTrimmed (s : List Char) : Prop where
  head : ∀ c, s.head? = some c → isBlank c = false
  last : ∀ c, s.getLast? = some c → isBlank c = false

instance (s : List Char) : Decidable (IsTrimmed s) :=
  decidable_of_iff (s.head?.all (!isBlank ·) ∧ s.getLast?.all (!isBlank ·)) <| by
    simp only [Option.all_eq_true, Bool.not_eq_eq_eq_not, Bool.not_true]
    exact ⟨fun ⟨h₁, h₂⟩ => ⟨h₁, h₂⟩, fun h => ⟨h.1, h.2⟩⟩

theorem isTrimmed_trim (s : List Char) : IsTrimmed (trim s) where
  head c h := by
    obtain ⟨rest, hrest⟩ := List.head?_eq_some_iff.mp h
    exact not_isBlank_of_trim hrest
  last _ h := not_isBlank_of_getLast?_trim h

/-- **Nothing is taken from a text exactly if it is trimmed.** -/
theorem trim_eq_self_iff {s : List Char} : trim s = s ↔ IsTrimmed s := by
  refine ⟨fun h => h ▸ isTrimmed_trim s, fun ⟨hhead, hlast⟩ => ?_⟩
  have hstart : trimStart s = s := by
    rw [trimStart, List.dropWhile_eq_self_iff]
    intro hne hblank
    have hfirst := hhead _ (List.head?_eq_getElem? ▸ List.getElem?_eq_getElem hne)
    exact absurd hblank (by simp [hfirst])
  have hend : trimEnd s = s := by
    rw [trimEnd_eq_rdropWhile, List.rdropWhile_eq_self_iff]
    intro hne hblank
    exact absurd hblank (by simp [hlast _ (List.getLast?_eq_some_getLast hne)])
  rw [trim, hstart, hend]

/-- What stands in a trimmed text with blank characters around it. -/
structure Trims (s t : List Char) : Prop where
  isTrimmed : IsTrimmed t
  exists_eq : ∃ front behind, Blank front ∧ Blank behind ∧ s = front ++ t ++ behind

theorem trims_trim (s : List Char) : Trims s (trim s) where
  isTrimmed := isTrimmed_trim s
  exists_eq := by
    refine ⟨s.takeWhile isBlank, (trimStart s).rtakeWhile isBlank, ?_, ?_, ?_⟩
    · exact fun c hc => List.mem_takeWhile_imp hc
    · exact fun c hc => List.mem_rtakeWhile_imp hc
    · rw [List.append_assoc, trim, trimEnd_eq_rdropWhile, List.rdropWhile_append_rtakeWhile,
        trimStart, List.takeWhile_append_dropWhile]

/-- **A text is trimmed to the trimmed text that stands in it between blank characters.** -/
theorem trim_eq_iff {s t : List Char} : trim s = t ↔ Trims s t := by
  refine ⟨fun h => h ▸ trims_trim s, fun ⟨htrimmed, front, behind, hfront, hbehind, hs⟩ => ?_⟩
  have hend : trimEnd behind = [] := by
    rw [trimEnd_eq_rdropWhile, List.rdropWhile_eq_nil_iff]
    exact hbehind
  rw [hs, List.append_assoc, trim_append_of_blank hfront]
  cases hhead : t.head? with
  | none =>
    rw [List.head?_eq_none_iff.mp hhead, List.nil_append, trim_eq_nil_iff]
    exact hbehind
  | some a =>
    have hne : t ≠ [] := by
      rintro rfl
      cases hhead
    have hlast := List.getLast?_eq_some_getLast hne
    rw [trim_append_of_not_blank hhead (htrimmed.head a hhead) hlast (htrimmed.last _ hlast), hend,
      List.append_nil]

theorem infix_dropWhile {α : Type} {p : α → Bool} {w s : List α} (h : w <:+: s)
    (hw : ∀ a ∈ w.head?, p a = false) : w <:+: s.dropWhile p := by
  induction s with
  | nil => exact h
  | cons b s ih =>
    by_cases hb : p b = true
    · rw [List.dropWhile_cons_of_pos hb]
      obtain hprefix | hoccurs := List.infix_cons_iff.mp h
      · cases w with
        | nil => exact List.nil_infix
        | cons a w =>
          obtain ⟨rfl, -⟩ := List.cons_prefix_cons.mp hprefix
          exact absurd hb (by simp [hw a rfl])
      · exact ih hoccurs
    · rwa [List.dropWhile_cons_of_neg hb]

/-- **A trimmed text occurs in what is left of a text exactly if it occurs in the text.** -/
theorem infix_trim_iff {w s : List Char} (hw : IsTrimmed w) : w <:+: trim s ↔ w <:+: s := by
  refine ⟨fun h => h.trans (isInfix_trim s), fun h => ?_⟩
  have hstart : w <:+: trimStart s := infix_dropWhile h hw.head
  rw [trim, trimEnd, ← List.reverse_infix, List.reverse_reverse]
  refine infix_dropWhile (List.reverse_infix.mpr hstart) fun c hc => hw.last c ?_
  rwa [List.head?_reverse] at hc

theorem isTrimmed_nil : IsTrimmed [] := ⟨fun _ h => (nomatch h), fun _ h => (nomatch h)⟩

/-- Texts with a space between any two. -/
def spaced (pieces : List (List Char)) : List Char :=
  (pieces.intersperse [' ']).flatten

theorem spaced_cons_cons (first second : List Char) (pieces : List (List Char)) :
    spaced (first :: second :: pieces) = first ++ ' ' :: spaced (second :: pieces) := rfl

/-- There is nothing between the texts but spaces. -/
theorem eq_or_exists_of_mem_spaced {pieces : List (List Char)} {c : Char}
    (h : c ∈ spaced pieces) : c = ' ' ∨ ∃ piece ∈ pieces, c ∈ piece := by
  induction pieces with
  | nil => cases h
  | cons first pieces ih =>
    cases pieces with
    | nil => exact .inr ⟨first, List.mem_cons_self, by simpa [spaced] using h⟩
    | cons second pieces =>
      rw [spaced_cons_cons, List.mem_append, List.mem_cons] at h
      obtain hfirst | rfl | hrest := h
      · exact .inr ⟨first, List.mem_cons_self, hfirst⟩
      · exact .inl rfl
      · exact (ih hrest).imp_right fun ⟨piece, hmem, hc⟩ =>
          ⟨piece, List.mem_cons_of_mem first hmem, hc⟩

/-- The ends of a text decide whether it is trimmed. -/
theorem IsTrimmed.append {s t : List Char} (hs : IsTrimmed s) (ht : IsTrimmed t) (hne : s ≠ [])
    (hne' : t ≠ []) (between : List Char) : IsTrimmed (s ++ (between ++ t)) where
  head c hc := hs.head c (by rwa [List.head?_append_of_ne_nil _ hne] at hc)
  last c hc := ht.last c (by rwa [← List.append_assoc, List.getLast?_append_of_ne_nil _ hne'] at hc)

/-- **Trimmed texts with spaces between them are a trimmed text**, if none of them is empty. -/
theorem isTrimmed_spaced {pieces : List (List Char)}
    (h : ∀ piece ∈ pieces, piece ≠ [] ∧ IsTrimmed piece) : IsTrimmed (spaced pieces) := by
  induction pieces with
  | nil => exact isTrimmed_nil
  | cons first pieces ih =>
    obtain ⟨⟨hne, hfirst⟩, hpieces⟩ := List.forall_mem_cons.mp h
    cases pieces with
    | nil => simpa [spaced] using hfirst
    | cons second pieces =>
      have hne' : spaced (second :: pieces) ≠ [] := by
        have hsecond := (hpieces second List.mem_cons_self).1
        cases pieces with
        | nil => simpa [spaced] using hsecond
        | cons third pieces =>
          rw [spaced_cons_cons]
          exact List.append_ne_nil_of_left_ne_nil hsecond _
      rw [spaced_cons_cons]
      exact hfirst.append (ih hpieces) hne hne' [' ']

end FunctionSearch.Text
