import FunctionSearch.Number.Decimal
import FunctionSearch.Ranking.Table
import FunctionSearch.Text.Lines
import FunctionSearch.Text.Search

/-!
# Verdicts

What a model answers, read as a score and an explanation.

* `clean`: an answer without echoed instructions, sequence marks and labels;
* `Verdict.parse`: a score on the first line, an explanation on the lines that follow;
* `interpret`: both together.

`dropSpans` removes every span from `[INST]` to the next `[/INST]`, and keeps an opening that is
never closed.
-/

namespace FunctionSearch.Scoring

/-! ## Cleaning -/

/-- What opens an echoed instruction. -/
def spanOpen : List Char := "[INST]".toList

/-- What closes an echoed instruction. -/
def spanClose : List Char := "[/INST]".toList

/-- A text from here on without its spans; `kept` holds, in reverse, the pieces kept before. -/
def dropSpansFrom (kept : List (List Char)) (s : List Char) : List (List Char) :=
  match h : Text.splitFirst? spanOpen s with
  | none => (s :: kept).reverse
  | some (before, inside) =>
    match hc : Text.splitFirst? spanClose inside with
    | none => (s :: kept).reverse
    | some (_, after) =>
      have ho := Text.length_lt_of_splitFirst? h (by decide)
      have hs := Text.length_lt_of_splitFirst? hc (by decide)
      dropSpansFrom (before :: kept) after
termination_by s.length

/-- A text without its spans. -/
def dropSpans (s : List Char) : List Char :=
  (dropSpansFrom [] s).flatten

/-- The marks that are deleted after the spans, in this order. -/
def marks : List (List Char) :=
  ["<s>".toList, "</s>".toList, "Explanation:".toList]

/-- An answer without spans and marks, and without white space at its ends. -/
def cleanChars (raw : List Char) : List Char :=
  Text.trim (marks.foldl (fun s mark => Text.deleteAll mark s) (dropSpans raw))

/-- An answer without spans and marks, and without white space at its ends. -/
def clean (raw : String) : String :=
  String.ofList (cleanChars raw.toList)

/-! ## Reading -/

/-- A score with its explanation. -/
structure Verdict where
  score : Nat
  explanation : String
  deriving DecidableEq, Repr

/-- Why an answer is no verdict. -/
inductive Defect where
  | empty
  | notAnInteger (line : String)
  | outOfRange (value : Int)
  deriving DecidableEq, Repr

/-- The text of a defect. -/
def Defect.message : Defect → String
  | .empty => "model response was empty"
  | .notAnInteger line => s!"first line '{line}' is not an integer score"
  | .outOfRange value => s!"score {value} is outside 0..=10"

/-- Whether an integer fits into 64 bits with a sign. -/
def fitsWord (value : Int) : Bool :=
  -Int.ofNat (Nat.pow 2 63) ≤ value && value < Int.ofNat (Nat.pow 2 63)

/-- The score on the first line of an answer. -/
def parseScore (line : List Char) : Except Defect Nat :=
  if line.isEmpty then .error .empty
  else match (Number.integer? line).filter fitsWord with
    | none => .error (.notAnInteger (String.ofList line))
    | some value =>
      if 0 ≤ value && value ≤ maxScore then .ok value.toNat else .error (.outOfRange value)

/-- The lines of an explanation that are not blank, trimmed and joined by spaces. -/
def explanationOf (lines : List (List Char)) : List Char :=
  (((lines.map Text.trim).filter (!·.isEmpty)).intersperse [' ']).flatten

/-- The verdict that lines make. A score of zero has no explanation. -/
def verdictOf (lines : List (List Char)) : Except Defect Verdict :=
  match parseScore (Text.trim (lines.headD [])) with
  | .error defect => .error defect
  | .ok score =>
    .ok ⟨score, if score = 0 then "" else String.ofList (explanationOf lines.tail)⟩

/-- Read a cleaned answer. -/
def parse (cleaned : String) : Except Defect Verdict :=
  verdictOf (Text.lines cleaned.toList)

/-- Read an answer as the model gave it. -/
def interpret (raw : String) : Except Defect Verdict :=
  parse (clean raw)

end FunctionSearch.Scoring
