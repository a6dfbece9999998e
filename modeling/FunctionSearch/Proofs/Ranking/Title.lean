import FunctionSearch.Proofs.Text.Case
import FunctionSearch.Ranking.Title

/-!
# Titles keep the words

A title has a word for each word of its description, and all that may differ is their case.

* `isWord_capitalize`: a word stays one word when its case changes.
* `words_title`: the words of a title are those of the description in title case.
* `capitalize_capitalize`: an ASCII word in title case stays as it is.
* `title_keeps_words` puts this together.
-/

namespace FunctionSearch.Ranking

open Text

variable {word : List Char} {description : String}

theorem capitalize_cons (c : Char) (word : List Char) :
    capitalize (c :: word) = upper c ++ word.flatMap lower := rfl

/-! ## Words in title case -/

/-- **A word stays one word when its case changes.** -/
theorem isWord_capitalize (h : IsWord word) : IsWord (capitalize word) := by
  obtain ⟨hne, hword⟩ := h
  cases word with
  | nil => exact absurd rfl hne
  | cons c word =>
    obtain ⟨hc, hword⟩ := List.forall_mem_cons.mp hword
    obtain ⟨hfirst, hupper⟩ := isWord_upper hc
    rw [capitalize_cons]
    refine ⟨List.append_ne_nil_of_left_ne_nil hfirst _, fun d hd => ?_⟩
    obtain hd | hd := List.mem_append.mp hd
    · exact hupper d hd
    · obtain ⟨e, he, hd⟩ := List.mem_flatMap.mp hd
      exact (isWord_lower (hword e he)).not_blank d hd

theorem isWord_of_mem_words {s : List Char} (h : word ∈ words s) : IsWord word :=
  (words_eq_iff.mp rfl).isWord h

theorem toList_title (description : String) :
    (title description).toList = spaced ((words description.toList).map capitalize) := by
  rw [title, String.toList_ofList, spaced]

theorem isWord_of_mem_map_capitalize {s : List Char} (h : word ∈ (words s).map capitalize) :
    IsWord word := by
  obtain ⟨plain, hplain, rfl⟩ := List.mem_map.mp h
  exact isWord_capitalize (isWord_of_mem_words hplain)

/-- **The words of a title are those of the description in title case.** -/
theorem words_title (description : String) :
    words (title description).toList = (words description.toList).map capitalize := by
  rw [toList_title]
  exact words_spaced fun _ => isWord_of_mem_map_capitalize

theorem isTrimmed_title (description : String) : IsTrimmed (title description).toList := by
  rw [toList_title]
  refine isTrimmed_spaced fun piece hpiece => ?_
  have hword := isWord_of_mem_map_capitalize hpiece
  exact ⟨hword.ne_nil, hword.isTrimmed⟩

/-! ## ASCII -/

theorem flatMap_lower_ascii (h : ∀ c ∈ word, c.toNat < 128) :
    word.flatMap lower = word.map Char.toLower := by
  induction word with
  | nil => rfl
  | cons c word ih =>
    obtain ⟨hc, hword⟩ := List.forall_mem_cons.mp h
    rw [List.flatMap_cons, lower_ascii hc, ih hword, List.map_cons, List.singleton_append]

theorem capitalize_ascii {c : Char} (hc : c.toNat < 128) (h : ∀ d ∈ word, d.toNat < 128) :
    capitalize (c :: word) = c.toUpper :: word.map Char.toLower := by
  rw [capitalize_cons, upper_ascii hc, flatMap_lower_ascii h, List.singleton_append]

/-- **An ASCII word in title case stays as it is.** -/
theorem capitalize_capitalize (h : ∀ c ∈ word, c.toNat < 128) :
    capitalize (capitalize word) = capitalize word := by
  cases word with
  | nil => rfl
  | cons c word =>
    obtain ⟨hc, hword⟩ := List.forall_mem_cons.mp h
    have hlower : ∀ d ∈ word.map Char.toLower, d.toNat < 128 :=
      List.forall_mem_map.mpr fun d hd => (settled_toLower (hword d hd)).toNat_lt
    have htwice : (word.map Char.toLower).map Char.toLower = word.map Char.toLower := by
      rw [List.map_map]
      exact List.map_congr_left fun d hd => (settled_toLower (hword d hd)).twice
    rw [capitalize_ascii hc hword, capitalize_ascii (settled_toUpper hc).toNat_lt hlower, htwice,
      (settled_toUpper hc).twice]

theorem title_title (h : ∀ c ∈ description.toList, c.toNat < 128) :
    title (title description) = title description := by
  have hwords : ∀ word ∈ words description.toList, ∀ c ∈ word, c.toNat < 128 :=
    fun word hword c hc => h c ((words_eq_iff.mp rfl).mem hword hc)
  have hsame : ((words description.toList).map capitalize).map capitalize =
      (words description.toList).map capitalize := by
    rw [List.map_map]
    exact List.map_congr_left fun word hword => capitalize_capitalize (hwords word hword)
  rw [← String.toList_inj, toList_title (title description), words_title, hsame, toList_title]

/-- **A title keeps the words of its description.** It has as many, each in title case, with one
space between any two and nothing around them. White space of the description does not matter, and
a title in ASCII is its own title. -/
theorem title_keeps_words (description : String) :
    (words (title description).toList).length = (words description.toList).length ∧
    words (title description).toList = (words description.toList).map capitalize ∧
    (title description).toList = spaced (words (title description).toList) ∧
    IsTrimmed (title description).toList ∧
    (∀ other pieces, Worded description.toList pieces → Worded other.toList pieces →
      title other = title description) ∧
    ((∀ c ∈ description.toList, c.toNat < 128) →
      title (title description) = title description) := by
  refine ⟨?_, words_title description, ?_, isTrimmed_title description, ?_, title_title⟩
  · rw [words_title, List.length_map]
  · rw [words_title, toList_title]
  · intro other pieces h hother
    rw [← String.toList_inj, toList_title, toList_title, h.words_eq, hother.words_eq]

/-- The words of two descriptions. -/
def keySetup : List (List Char) :=
  ["rc4".toList, "KEY".toList, "setup".toList]

/-- Two descriptions with the same words, and a title that is its own title. -/
theorem title_keeps_words_spread :
    Worded "rc4 KEY\nsetup ".toList keySetup ∧ Worded "\trc4  KEY setup".toList keySetup ∧
    title "\trc4  KEY setup" = title "rc4 KEY\nsetup " ∧
    (∀ c ∈ "rc4 KEY\nsetup ".toList, c.toNat < 128) ∧
    title (title "rc4 KEY\nsetup ") = title "rc4 KEY\nsetup " := by
  have hfirst : Worded "rc4 KEY\nsetup ".toList keySetup := words_eq_iff.mp (by decide +kernel)
  have hsecond : Worded "\trc4  KEY setup".toList keySetup := words_eq_iff.mp (by decide +kernel)
  have hascii : ∀ c ∈ "rc4 KEY\nsetup ".toList, c.toNat < 128 := by simp
  obtain ⟨-, -, -, -, hsame, htwice⟩ := title_keeps_words "rc4 KEY\nsetup "
  exact ⟨hfirst, hsecond, hsame _ _ hfirst hsecond, hascii, htwice hascii⟩

/-- Beyond ASCII a title need not be its own title. -/
example : title "ß" = "SS" ∧ title "SS" = "Ss" := by decide +kernel

end FunctionSearch.Ranking
