import FunctionSearch.Scoring.Backend
import FunctionSearch.Scoring.Prompt

/-!
# Scoring

Functions scored one call at a time.

* `ask`: one prompt, asked again while the answer is no verdict and tries are left;
* `score`: the result for one function;
* `scoreAll`: every function of a list in order, with the table after each success.

An inference error ends the work on its function at once, and nothing that happens to one function
touches the others.
-/

namespace FunctionSearch.Scoring

/-- Why a function has no score. -/
inductive ScoreError where
  | inference (error : InferenceError)
  | unparseable (defect : Defect)
  deriving DecidableEq, Repr

namespace ScoreError

/-- The text of a missing score. -/
def message : ScoreError → String
  | .inference error => error.message
  | .unparseable defect => s!"unparseable model response: {defect.message}"

/-- Whether an answer came but could not be read. -/
def isParse : ScoreError → Bool
  | .inference _ => false
  | .unparseable _ => true

/-- The word for the kind of a missing score. -/
def kind (error : ScoreError) : String :=
  if error.isParse then "parse" else "inference"

end ScoreError

variable {σ : Type}

/-- Ask a prompt until an answer is a verdict, at most `retries` times more. -/
def ask (backend : Backend σ) (prompt : String) : (retries : Nat) → σ →
    Except ScoreError Verdict × σ
  | retries, state =>
    match backend.complete prompt state with
    | (.error error, state) => (.error (.inference error), state)
    | (.ok raw, state) =>
      match interpret raw with
      | .ok verdict => (.ok verdict, state)
      | .error defect =>
        match retries with
        | 0 => (.error (.unparseable defect), state)
        | retries + 1 => ask backend prompt retries state

/-- One question. The equation is stated here because the one that is made for a definition would be
checked by reading an answer that is not known. -/
theorem ask_eq (backend : Backend σ) (prompt : String) (retries : Nat) (state : σ) :
    ask backend prompt retries state =
      match backend.complete prompt state with
      | (.error error, state) => (.error (.inference error), state)
      | (.ok raw, state) =>
        match interpret raw with
        | .ok verdict => (.ok verdict, state)
        | .error defect =>
          match retries with
          | 0 => (.error (.unparseable defect), state)
          | retries + 1 => ask backend prompt retries state := by
  cases retries
  all_goals
    delta ask ask._f
    generalize interpret = read
    rfl

/-- The score of one function against a description. -/
def score (backend : Backend σ) (retries : Nat) (description : String) (record : FunctionRecord)
    (state : σ) : Except ScoreError ScoredFunction × σ :=
  let (answer, state) := ask backend (prompt description record.code) retries state
  (answer.map fun verdict => .ofVerdict record verdict.score verdict.explanation, state)

/-- A function that is missing from the ranking. -/
structure ScoreFailure where
  binary : String
  function : String
  kind : String
  error : String
  deriving DecidableEq, Repr

/-- What scoring a list of functions gives. -/
structure Report where
  ranking : Ranking
  failures : List ScoreFailure
  /-- The table after each success, in order. -/
  published : List Ranking.Table
  deriving DecidableEq, Repr

namespace Report

/-- The report before the first function. -/
def empty (description : String) : Report :=
  ⟨.empty description, [], []⟩

/-- The report with the outcome of one more function. -/
def add (report : Report) (record : FunctionRecord) : Except ScoreError ScoredFunction → Report
  | .ok result =>
    let ranking := report.ranking.push result
    { report with ranking, published := report.published ++ [ranking.table] }
  | .error error =>
    { report with
      failures := report.failures ++ [⟨record.binary, record.function, error.kind, error.message⟩] }

/-- The number of functions with a failure of a kind. -/
def countOf (report : Report) (kind : String) : Nat :=
  report.failures.countP (·.kind == kind)

/-- The number of functions whose answer could not be read. -/
def unparseable (report : Report) : Nat :=
  report.countOf "parse"

/-- The number of functions for which the backend failed. -/
def failedInference (report : Report) : Nat :=
  report.countOf "inference"

end Report

/-- Score one more function and put the outcome into the report. -/
def scoreNext (backend : Backend σ) (retries : Nat) (description : String) (done : Report × σ)
    (record : FunctionRecord) : Report × σ :=
  let (outcome, state) := score backend retries description record done.2
  (done.1.add record outcome, state)

/-- Score functions in order. -/
def scoreAll (backend : Backend σ) (retries : Nat) (description : String)
    (records : List FunctionRecord) (state : σ) : Report × σ :=
  records.foldl (scoreNext backend retries description) (.empty description, state)

end FunctionSearch.Scoring
