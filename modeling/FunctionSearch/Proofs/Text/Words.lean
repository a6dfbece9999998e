import FunctionSearch.Proofs.Text.Blank

/-!
# Words of a text

`Worded` says how a text is made of words with white space around and between them. `words_eq_iff`:
the words of a text are those that it is made of, and a text is made of words in one way only.
`IsWord` says what one word is, and `words_spaced` that words with a space between any two are the
words of that text.
-/

namespace FunctionSearch.Text

variable {s rest word gap : List Char} {pieces : List (List Char)}

/-- Whether a text can stand behind a word: it is empty or starts with white space. -/
def EndsWord (rest : List Char) : Prop :=
  ∀ c ∈ rest.head?, isBlank c = true

/-- A text that is made of words: nothing but white space, or a word with white space in front of
it, behind which no further character of it stands. -/
inductive Worded : List Char → List (List Char) → Prop
  | blank {s : List Char} (h : Blank s) : Worded s []
  | word {gap word rest : List Char} {pieces : List (List Char)} (hgap : Blank gap)
      (hne : word ≠ []) (hword : ∀ c ∈ word, isBlank c = false) (hrest : EndsWord rest)
      (h : Worded rest pieces) : Worded (gap ++ word ++ rest) (word :: pieces)

theorem words_append_of_blank (hgap : Blank gap) (s : List Char) : words (gap ++ s) = words s := by
  induction gap with
  | nil => rfl
  | cons c gap ih =>
    have hblank : isBlank c = true := hgap c List.mem_cons_self
    have hrest : Blank gap := fun d hd => hgap d (List.mem_cons_of_mem c hd)
    rw [List.cons_append, words, splitWhere_cons, if_pos hblank, List.filter_cons_of_neg (by simp)]
    exact ih hrest

/-- A word in front of a splitting that starts with an empty piece is a piece by itself. -/
theorem splitWhere_append_of_not (hword : ∀ c ∈ word, isBlank c = false)
    (hrest : splitWhere isBlank rest = [] :: pieces) :
    splitWhere isBlank (word ++ rest) = word :: pieces := by
  induction word with
  | nil => exact hrest
  | cons c word ih =>
    have hc : isBlank c = false := hword c List.mem_cons_self
    rw [List.cons_append, splitWhere_cons, hc,
      ih fun d hd => hword d (List.mem_cons_of_mem c hd)]
    rfl

theorem words_append_of_endsWord (hne : word ≠ []) (hword : ∀ c ∈ word, isBlank c = false)
    (hrest : EndsWord rest) : words (word ++ rest) = word :: words rest := by
  obtain ⟨pieces, hpieces⟩ : ∃ pieces, splitWhere isBlank rest = [] :: pieces := by
    cases rest with
    | nil => exact ⟨[], rfl⟩
    | cons c rest => exact ⟨_, by rw [splitWhere_cons, if_pos (hrest c rfl)]⟩
  rw [words, splitWhere_append_of_not hword hpieces, words, hpieces,
    List.filter_cons_of_pos (by simpa using hne), List.filter_cons_of_neg (by simp)]

theorem Worded.words_eq (h : Worded s pieces) : words s = pieces := by
  induction h with
  | @blank s h => rw [← List.append_nil s, words_append_of_blank h]; rfl
  | word hgap hne hword hrest _ ih =>
    rw [List.append_assoc, words_append_of_blank hgap, words_append_of_endsWord hne hword hrest, ih]

/-! ## Single words -/

/-- A text that is one word. -/
structure IsWord (word : List Char) : Prop where
  ne_nil : word ≠ []
  not_blank : ∀ c ∈ word, isBlank c = false

theorem IsWord.isTrimmed (h : IsWord word) : IsTrimmed word where
  head c hc := h.not_blank c (List.mem_of_mem_head? hc)
  last c hc := h.not_blank c (List.mem_of_getLast? hc)

theorem Worded.isWord (h : Worded s pieces) {piece : List Char} (hpiece : piece ∈ pieces) :
    IsWord piece := by
  induction h with
  | blank => cases hpiece
  | word _ hne hword _ _ ih =>
    obtain rfl | hpiece := List.mem_cons.mp hpiece
    · exact ⟨hne, hword⟩
    · exact ih hpiece

/-- No word is blank. -/
theorem Worded.not_blank (h : Worded s pieces) {piece : List Char} (hpiece : piece ∈ pieces) :
    ¬ Blank piece := by
  obtain ⟨hne, hword⟩ := h.isWord hpiece
  obtain ⟨c, hc⟩ := List.exists_mem_of_ne_nil _ hne
  intro hblank
  cases (hblank c hc).symm.trans (hword c hc)

/-- A text has the characters of its words. -/
theorem Worded.mem (h : Worded s pieces) {piece : List Char} (hpiece : piece ∈ pieces) {c : Char}
    (hc : c ∈ piece) : c ∈ s := by
  induction h with
  | blank => cases hpiece
  | word _ _ _ _ _ ih =>
    obtain rfl | hpiece := List.mem_cons.mp hpiece
    · exact List.mem_append_left _ (List.mem_append_right _ hc)
    · exact List.mem_append_right _ (ih hpiece)

/-! ## The words of a text -/

/-- Every text is made of words. -/
theorem exists_worded (s : List Char) : ∃ pieces, Worded s pieces := by
  induction s with
  | nil => exact ⟨[], .blank fun _ hc => nomatch hc⟩
  | cons c s ih =>
    obtain ⟨pieces, h⟩ := ih
    cases hc : isBlank c with
    | true =>
      cases h with
      | blank h => exact ⟨[], .blank (List.forall_mem_cons.mpr ⟨hc, h⟩)⟩
      | word hgap hne hword hrest h =>
        exact ⟨_, .word (List.forall_mem_cons.mpr ⟨hc, hgap⟩) hne hword hrest h⟩
    | false =>
      -- the character is a word by itself unless one starts right behind it
      have hsingle : ∀ d ∈ [c], isBlank d = false := by simpa using hc
      have hnil : Blank [] := fun _ hd => nomatch hd
      cases h with
      | blank h =>
        exact ⟨[[c]], .word hnil (List.cons_ne_nil c []) hsingle
          (fun d hd => h d (List.mem_of_mem_head? hd)) (.blank h)⟩
      | @word gap word rest pieces hgap hne hword hrest h =>
        cases gap with
        | nil =>
          exact ⟨(c :: word) :: pieces, .word hnil (List.cons_ne_nil c word)
            (List.forall_mem_cons.mpr ⟨hc, hword⟩) hrest h⟩
        | cons d gap =>
          refine ⟨[c] :: word :: pieces, .word hnil (List.cons_ne_nil c []) hsingle ?_
            (.word hgap hne hword hrest h)⟩
          intro e he
          obtain rfl := Option.some.inj he
          exact hgap d List.mem_cons_self

/-- **The words of a text are those that it is made of.** -/
theorem words_eq_iff : words s = pieces ↔ Worded s pieces := by
  refine ⟨fun h => ?_, Worded.words_eq⟩
  obtain ⟨pieces', h'⟩ := exists_worded s
  rwa [← h, h'.words_eq]

theorem words_eq_nil_iff : words s = [] ↔ Blank s := by
  refine words_eq_iff.trans ⟨fun h => ?_, .blank⟩
  cases h with
  | blank h => exact h

/-- **Words with a space between any two are the words of that text.** -/
theorem words_spaced (h : ∀ piece ∈ pieces, IsWord piece) : words (spaced pieces) = pieces := by
  induction pieces with
  | nil => rfl
  | cons first pieces ih =>
    obtain ⟨⟨hne, hfirst⟩, hpieces⟩ := List.forall_mem_cons.mp h
    cases pieces with
    | nil =>
      have hnil : EndsWord [] := fun _ hc => nomatch hc
      exact words_append_of_endsWord hne hfirst hnil
    | cons second pieces =>
      have hspace : EndsWord (' ' :: spaced (second :: pieces)) := by
        rintro c ⟨⟩
        rfl
      have hgap : words ([' '] ++ spaced (second :: pieces)) = second :: pieces := by
        rw [words_append_of_blank (by decide), ih hpieces]
      rw [spaced_cons_cons, words_append_of_endsWord hne hfirst hspace]
      exact congrArg (first :: ·) hgap

end FunctionSearch.Text
