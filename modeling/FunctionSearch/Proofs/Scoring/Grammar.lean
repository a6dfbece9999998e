import FunctionSearch.Proofs.Number.Decimal
import FunctionSearch.Proofs.Text.Blank
import FunctionSearch.Proofs.Text.Lines
import FunctionSearch.Scoring.Verdict
import Mathlib.Algebra.Group.Int.Defs

/-!
# The grammar of answers

Which texts are read as verdicts, and what is wrong with the others, said without the reader.

* `ScoreOf` says what the first line of an answer is read as, and `parseScore_eq_iff` that the
  reader has it so.
* `parse_eq_ok_iff` and `parse_eq_error_iff`: a text is read by its first line (`scoreLine`), and
  the other lines only explain.
* `interpret_eq_empty_iff`: an answer is empty exactly if nothing is left of it after cleaning.
* `parse_reads_grammar`: exactly when each outcome of reading arises.
-/

namespace FunctionSearch.Scoring

open Text

/-! ## Scores -/

/-- An integer that fits into 64 bits with a sign. -/
def IsWord (value : Int) : Prop :=
  -2 ^ 63 ≤ value ∧ value < 2 ^ 63

/-- What a trimmed line is read as: nothing, a score on the scale, an integer beyond the scale, or
no integer, which it also is if it is too large for a word. -/
inductive ScoreOf : List Char → Except Defect Nat → Prop
  | empty : ScoreOf [] (.error .empty)
  | score {line : List Char} {score : Nat} (hline : Number.IsSigned line score)
    (hle : score ≤ maxScore) : ScoreOf line (.ok score)
  | outOfRange {line : List Char} {value : Int} (hline : Number.IsSigned line value)
    (hword : IsWord value) (hout : ¬ (0 ≤ value ∧ value ≤ maxScore)) :
    ScoreOf line (.error (.outOfRange value))
  | notAnInteger {line : List Char} (hne : line ≠ [])
    (hline : ∀ value, Number.IsSigned line value → ¬ IsWord value) :
    ScoreOf line (.error (.notAnInteger (String.ofList line)))

theorem fitsWord_eq_true_iff {value : Int} : fitsWord value = true ↔ IsWord value := by
  have hbound : Int.ofNat (Nat.pow 2 63) = 2 ^ 63 := by
    decide
  rw [fitsWord, hbound, Bool.and_eq_true, decide_eq_true_iff, decide_eq_true_iff, IsWord]

theorem integer?_filter_eq_some_iff {line : List Char} {value : Int} :
    (Number.integer? line).filter fitsWord = some value ↔
      Number.IsSigned line value ∧ IsWord value := by
  rw [Option.filter_eq_some_iff, Number.integer?_eq_some_iff, fitsWord_eq_true_iff]

theorem isWord_of_le {score : Nat} (h : score ≤ maxScore) : IsWord score := by
  have hmax : maxScore = 10 := rfl
  constructor <;> omega

theorem scoreOf_parseScore (line : List Char) : ScoreOf line (parseScore line) := by
  rw [parseScore]
  split
  next hempty =>
    rw [List.isEmpty_iff.mp hempty]
    exact .empty
  next hempty =>
    split
    next hnone =>
      refine .notAnInteger (mt List.isEmpty_iff.mpr hempty) fun value hline hword => ?_
      have hsome := integer?_filter_eq_some_iff.mpr ⟨hline, hword⟩
      cases hnone.symm.trans hsome
    next value hsome =>
      obtain ⟨hline, hword⟩ := integer?_filter_eq_some_iff.mp hsome
      split
      next hrange =>
        rw [Bool.and_eq_true, decide_eq_true_iff, decide_eq_true_iff] at hrange
        rw [← Int.toNat_of_nonneg hrange.1] at hline
        exact .score hline (by omega)
      next hrange =>
        rw [Bool.and_eq_true, decide_eq_true_iff, decide_eq_true_iff] at hrange
        exact .outOfRange hline hword hrange

/-- **A line is read as the grammar has it.** -/
theorem parseScore_eq_iff {line : List Char} {result : Except Defect Nat} :
    parseScore line = result ↔ ScoreOf line result := by
  constructor
  · rintro rfl
    exact scoreOf_parseScore line
  · intro h
    cases h with
    | empty => rfl
    | score hline hle =>
      have hsome := integer?_filter_eq_some_iff.mpr ⟨hline, isWord_of_le hle⟩
      have hne := List.isEmpty_eq_false_iff.mpr hline.ne_nil
      simp [parseScore, hne, hsome, hle]
    | outOfRange hline hword hout =>
      have hsome := integer?_filter_eq_some_iff.mpr ⟨hline, hword⟩
      have hne := List.isEmpty_eq_false_iff.mpr hline.ne_nil
      simp [parseScore, hne, hsome, hout]
    | notAnInteger hne hline =>
      have hnone : (Number.integer? line).filter fitsWord = none := by
        rw [Option.eq_none_iff_forall_ne_some]
        intro value hsome
        obtain ⟨hsigned, hword⟩ := integer?_filter_eq_some_iff.mp hsome
        exact hline value hsigned hword
      rw [← List.isEmpty_eq_false_iff] at hne
      simp [parseScore, hne, hnone]

theorem scoreOf_empty_iff {line : List Char} : ScoreOf line (.error .empty) ↔ line = [] := by
  constructor
  · rintro ⟨⟩
    rfl
  · rintro rfl
    exact .empty

theorem scoreOf_ok_iff {line : List Char} {score : Nat} :
    ScoreOf line (.ok score) ↔ Number.IsSigned line score ∧ score ≤ maxScore := by
  constructor
  · rintro (_ | ⟨hline, hle⟩)
    exact ⟨hline, hle⟩
  · rintro ⟨hline, hle⟩
    exact .score hline hle

theorem scoreOf_outOfRange_iff {line : List Char} {value : Int} :
    ScoreOf line (.error (.outOfRange value)) ↔
      Number.IsSigned line value ∧ IsWord value ∧ ¬ (0 ≤ value ∧ value ≤ maxScore) := by
  constructor
  · rintro (_ | _ | ⟨hline, hword, hout⟩)
    exact ⟨hline, hword, hout⟩
  · rintro ⟨hline, hword, hout⟩
    exact .outOfRange hline hword hout

theorem scoreOf_notAnInteger_iff {line : List Char} {read : String} :
    ScoreOf line (.error (.notAnInteger read)) ↔
      line ≠ [] ∧ read = String.ofList line ∧
        ∀ value, Number.IsSigned line value → ¬ IsWord value := by
  constructor
  · rintro (_ | _ | _ | ⟨hne, hline⟩)
    exact ⟨hne, rfl, hline⟩
  · rintro ⟨hne, rfl, hline⟩
    exact .notAnInteger hne hline

/-! ## Verdicts -/

/-- The line of a text that its score is read from. -/
def scoreLine (text : String) : List Char :=
  trim ((lines text.toList).headD [])

/-- An explanation is made of the lines that are not blank. -/
theorem explanationOf_eq (ls : List (List Char)) :
    explanationOf ls = spaced ((ls.filter (¬ Blank ·)).map trim) := by
  have hfilter : (ls.map trim).filter (!·.isEmpty) = (ls.filter (¬ Blank ·)).map trim := by
    rw [List.filter_map]
    refine congrArg (List.map trim) (List.filter_congr fun line _ => ?_)
    rw [Bool.eq_iff_iff, decide_eq_true_iff, ← trim_eq_nil_iff, Function.comp_apply,
      Bool.not_eq_true', List.isEmpty_eq_false_iff]
  rw [explanationOf, hfilter, spaced]

theorem parse_eq_error_iff {text : String} {defect : Defect} :
    parse text = .error defect ↔ ScoreOf (scoreLine text) (.error defect) := by
  rw [← parseScore_eq_iff, parse, verdictOf, scoreLine]
  cases parseScore (trim ((lines text.toList).headD [])) with
  | error found => simp
  | ok score => simp

theorem parse_eq_ok_iff {text : String} {verdict : Verdict} :
    parse text = .ok verdict ↔ ScoreOf (scoreLine text) (.ok verdict.score) ∧
      verdict.explanation = if verdict.score = 0 then ""
        else String.ofList (spaced (((lines text.toList).tail.filter (¬ Blank ·)).map trim)) := by
  rw [← parseScore_eq_iff, parse, verdictOf, scoreLine, ← explanationOf_eq]
  obtain ⟨score, explanation⟩ := verdict
  cases parseScore (trim ((lines text.toList).headD [])) with
  | error defect => simp
  | ok found =>
    rw [Except.ok.injEq, Except.ok.injEq, Verdict.mk.injEq]
    refine and_congr_right fun hscore => ?_
    subst hscore
    exact eq_comm

/-! ## Cleaned answers -/

/-- What is cleaned has a first line that is not blank, unless it is empty. -/
theorem scoreLine_clean_eq_nil_iff (raw : String) :
    scoreLine (clean raw) = [] ↔ clean raw = "" := by
  rw [scoreLine, clean, String.toList_ofList, String.ofList_eq_empty_iff]
  constructor
  · intro h
    cases hchars : cleanChars raw.toList with
    | nil => rfl
    | cons c s =>
      have hc : isBlank c = false := not_isBlank_of_trim hchars
      have hfeed : c ≠ '\n' := by
        rintro rfl
        cases hc
      have hreturn : c ≠ '\r' := by
        rintro rfl
        cases hc
      obtain ⟨rest, hhead⟩ := exists_headD_lines hfeed hreturn s
      rw [hchars, hhead, trim_eq_nil_iff] at h
      exact absurd (h c List.mem_cons_self) (by simp [hc])
  · intro h
    rw [h]
    rfl

/-- **An answer is empty exactly if nothing is left of it.** -/
theorem interpret_eq_empty_iff (raw : String) :
    interpret raw = .error .empty ↔ clean raw = "" := by
  rw [interpret, parse_eq_error_iff, scoreOf_empty_iff, scoreLine_clean_eq_nil_iff]

/-! ## The grammar -/

/-- **The grammar of answers.** What a text is read as depends on its first line, trimmed. Without
that line it is empty. If the line is an integer on the scale, in digits behind an optional sign, it
is a verdict with this score; the explanation is made of the other lines that are not blank, and a
score of zero has none. If it is an integer of 64 bits beyond the scale, this is what is wrong with
it, and in every other case it is no integer. An answer is empty exactly if nothing is left of it
after cleaning. -/
theorem parse_reads_grammar (text : String) :
    (parse text = .error .empty ↔ scoreLine text = []) ∧
    (∀ verdict, parse text = .ok verdict ↔
      Number.IsSigned (scoreLine text) verdict.score ∧ verdict.score ≤ 10 ∧
        verdict.explanation = if verdict.score = 0 then ""
          else String.ofList (spaced (((lines text.toList).tail.filter (¬ Blank ·)).map trim))) ∧
    (∀ value, parse text = .error (.outOfRange value) ↔
      Number.IsSigned (scoreLine text) value ∧ IsWord value ∧ ¬ (0 ≤ value ∧ value ≤ 10)) ∧
    (∀ line, parse text = .error (.notAnInteger line) ↔
      scoreLine text ≠ [] ∧ line = String.ofList (scoreLine text) ∧
        ∀ value, Number.IsSigned (scoreLine text) value → ¬ IsWord value) ∧
    ∀ raw, interpret raw = .error .empty ↔ clean raw = "" := by
  refine ⟨parse_eq_error_iff.trans scoreOf_empty_iff, fun verdict => ?_, fun value => ?_,
    fun line => ?_, interpret_eq_empty_iff⟩
  · rw [parse_eq_ok_iff, scoreOf_ok_iff, and_assoc]
    rfl
  · exact parse_eq_error_iff.trans scoreOf_outOfRange_iff
  · exact parse_eq_error_iff.trans scoreOf_notAnInteger_iff

end FunctionSearch.Scoring
