import FunctionSearch.Proofs.Scoring.Verdict

/-!
# Verdicts in canonical form

A verdict can be read from many texts, and one of them is made of nothing but its score and its
explanation.

* `Verdict.Canonical` says which verdicts there are to read, and `canonical_iff_sound` that these
  are the sound ones.
* `Verdict.text` is the text of a verdict; `scoreLine_text` and `lines_text` say that it is split
  into score and explanation again.
* `exists_parse_iff_canonical`: the canonical verdicts are the ones that can be read, and every one
  of them is read from its own text.
-/

namespace FunctionSearch.Scoring

open Text

namespace Verdict

/-- A score of zero without explanation, or a score from one to ten with an explanation on one line
that has no blanks at its ends. -/
inductive Canonical : Verdict → Prop
  | zero : Canonical ⟨0, ""⟩
  | positive {score : Nat} {explanation : String} (hpos : 1 ≤ score) (hle : score ≤ 10)
    (hfeed : '\n' ∉ explanation.toList)
    (htrim : trim explanation.toList = explanation.toList) : Canonical ⟨score, explanation⟩

/-- A verdict as a text: the score in decimal, and the explanation on the line behind it. -/
def text (verdict : Verdict) : String :=
  String.ofList (Number.numeral verdict.score ++ '\n' :: verdict.explanation.toList)

theorem canonical_iff_sound {verdict : Verdict} : verdict.Canonical ↔ verdict.Sound := by
  constructor
  · intro h
    cases h with
    | zero => exact ⟨Nat.zero_le _, fun _ => rfl, List.not_mem_nil, isTrimmed_nil⟩
    | positive hpos hle hfeed htrim =>
      exact ⟨hle, fun hzero => absurd hzero (Nat.ne_of_gt hpos), hfeed,
        trim_eq_self_iff.mp htrim⟩
  · intro h
    obtain ⟨score, explanation⟩ := verdict
    obtain rfl | hpos := Nat.eq_zero_or_pos score
    · obtain rfl : explanation = "" := h.explanation_of_zero rfl
      exact .zero
    · exact .positive hpos h.score_le h.feed_notMem (trim_eq_self_iff.mpr h.trimmed)

end Verdict

/-- **What is read is canonical.** -/
theorem canonical_of_parse {text : String} {verdict : Verdict} (h : parse text = .ok verdict) :
    verdict.Canonical :=
  Verdict.canonical_iff_sound.mpr (sound_of_verdictOf (fun _ => feed_notMem_of_mem_lines) h)

/-! ## Texts of verdicts -/

theorem not_isBlank_of_isDigit {c : Char} (hc : c.isDigit = true) : isBlank c = false := by
  rw [Char.isDigit_iff_toNat] at hc
  have hlow : '0'.toNat = 48 := rfl
  have hhigh : '9'.toNat = 57 := rfl
  simp only [isBlank, Bool.or_eq_false_iff, Bool.and_eq_false_iff, decide_eq_false_iff_not,
    beq_eq_false_iff_ne]
  omega

theorem isTrimmed_numeral (n : Nat) : IsTrimmed (Number.numeral n) where
  head _ h := not_isBlank_of_isDigit
    ((Number.isDecimal_numeral n).isDigit_of_mem _ (List.mem_of_head? h))
  last _ h := not_isBlank_of_isDigit
    ((Number.isDecimal_numeral n).isDigit_of_mem _ (List.mem_of_getLast? h))

theorem isLine_numeral (n : Nat) : IsLine (Number.numeral n) := by
  have hdigits := (Number.isDecimal_numeral n).isDigit_of_mem
  refine ⟨fun hmem => absurd (hdigits _ hmem) (by decide), fun hlast => ?_⟩
  exact absurd (hdigits _ (List.mem_of_getLast? hlast)) (by decide)

theorem lines_text (verdict : Verdict) :
    lines verdict.text.toList =
      Number.numeral verdict.score :: lines verdict.explanation.toList := by
  have hline := isLine_numeral verdict.score
  rw [Verdict.text, String.toList_ofList, lines_append_feed hline.1, hline.dropReturn_eq]

theorem scoreLine_text (verdict : Verdict) :
    scoreLine verdict.text = Number.numeral verdict.score := by
  rw [scoreLine, lines_text, List.headD_cons]
  exact trim_eq_self_iff.mpr (isTrimmed_numeral verdict.score)

/-- A trimmed line is the explanation that is made of it. -/
theorem spaced_lines_eq {explanation : List Char} (hfeed : '\n' ∉ explanation)
    (htrim : trim explanation = explanation) :
    spaced (((lines explanation).filter (¬ Blank ·)).map trim) = explanation := by
  rw [lines_of_feed_notMem hfeed]
  by_cases hnil : explanation = []
  · rw [if_pos hnil, hnil]
    rfl
  · have hblank : ¬ Blank explanation := by
      rwa [← trim_eq_nil_iff, htrim]
    rw [if_neg hnil, List.filter_cons_of_pos (by simpa using hblank), List.filter_nil,
      List.map_singleton, htrim]
    simp [spaced]

/-- **A canonical verdict is read from its text.** -/
theorem parse_text {verdict : Verdict} (h : verdict.Canonical) :
    parse verdict.text = .ok verdict := by
  have hsound := Verdict.canonical_iff_sound.mp h
  have hscore : Number.IsSigned (Number.numeral verdict.score) verdict.score :=
    .bare (Number.isDecimal_numeral verdict.score)
  rw [parse_eq_ok_iff, scoreLine_text]
  refine ⟨.score hscore hsound.score_le, ?_⟩
  rw [lines_text, List.tail_cons,
    spaced_lines_eq hsound.feed_notMem (trim_eq_self_iff.mpr hsound.trimmed), String.ofList_toList]
  split
  next hzero => exact hsound.explanation_of_zero hzero
  · rfl

/-- **The canonical verdicts are exactly those that can be read.** Each of them is read from its own
text, so to read a text, to write the verdict and to read it again is to read the text. -/
theorem exists_parse_iff_canonical (verdict : Verdict) :
    ((∃ text, parse text = .ok verdict) ↔ verdict.Canonical) ∧
    (verdict.Canonical → parse verdict.text = .ok verdict) ∧
    ∀ text, parse text = .ok verdict → parse verdict.text = parse text := by
  refine ⟨⟨?_, fun h => ⟨verdict.text, parse_text h⟩⟩, parse_text, fun text h => ?_⟩
  · rintro ⟨text, h⟩
    exact canonical_of_parse h
  · rw [h]
    exact parse_text (canonical_of_parse h)

end FunctionSearch.Scoring
