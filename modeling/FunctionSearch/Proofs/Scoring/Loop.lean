import FunctionSearch.Scoring.Engine
import Mathlib.Data.List.Basic

/-!
# Scoring one function after the other

Scoring a list of functions is to score each of them in turn, with the backend in the state in which
the ones before have left it.

* `outcomes` is what comes of each function, and the state of the backend afterwards;
  `outcomes_append` and `exists_outcomes_eq` say that the state is all that one function hands on to
  the next.
* `Report.Partitions` says how a report divides outcomes: the successes are in the ranking, the
  failures are listed by kind, and there is a table for every success. One more outcome keeps it
  (`Partitions.add`), so the report on a whole list has it (`scoreAll_eq`).
* `scoreAll_partitions`: all of this, and what scoring two lists in a row comes to.
-/

namespace FunctionSearch.Scoring

variable {σ : Type}

/-! ## Outcomes -/

/-- What came of scoring a function. -/
structure Outcome where
  record : FunctionRecord
  result : Except ScoreError ScoredFunction
  deriving DecidableEq, Repr

namespace Outcome

/-- The result, if there is one. -/
def success? (outcome : Outcome) : Option ScoredFunction :=
  outcome.result.toOption

/-- The failure, if there is one: the model's answer could not be read, or there was none. -/
def failure? (outcome : Outcome) : Option ScoreFailure :=
  match outcome.result with
  | .ok _ => none
  | .error (.unparseable defect) =>
    some ⟨outcome.record.binary, outcome.record.function, "parse",
      (ScoreError.unparseable defect).message⟩
  | .error (.inference error) =>
    some ⟨outcome.record.binary, outcome.record.function, "inference",
      (ScoreError.inference error).message⟩

theorem success?_eq_some_iff {outcome : Outcome} {result : ScoredFunction} :
    outcome.success? = some result ↔ outcome.result = .ok result := by
  obtain ⟨record, _ | found⟩ := outcome <;> simp [success?, Except.toOption]

end Outcome

section Outcomes

variable (backend : Backend σ) (retries : Nat) (description : String)

/-- What comes of each function of a list, and the state of the backend afterwards. -/
def outcomes : List FunctionRecord → σ → List Outcome × σ
  | [], state => ([], state)
  | record :: rest, state =>
    let scored := score backend retries description record state
    let later := outcomes rest scored.2
    (⟨record, scored.1⟩ :: later.1, later.2)

/-- **Every function is scored once, in order.** -/
theorem map_record_outcomes (records : List FunctionRecord) (state : σ) :
    (outcomes backend retries description records state).1.map Outcome.record = records := by
  induction records generalizing state with
  | nil => rfl
  | cons record records ih => exact congrArg (record :: ·) (ih _)

/-- Two lists in a row: the second one starts in the state in which the first one ends. -/
theorem outcomes_append (first second : List FunctionRecord) (state : σ) :
    outcomes backend retries description (first ++ second) state =
      ((outcomes backend retries description first state).1 ++
          (outcomes backend retries description second
            (outcomes backend retries description first state).2).1,
        (outcomes backend retries description second
          (outcomes backend retries description first state).2).2) := by
  induction first generalizing state with
  | nil => rfl
  | cons record first ih =>
    rw [List.cons_append, outcomes, ih]
    rfl

/-- What comes of a function depends on the others only through the state that those before it
leave. -/
theorem exists_outcomes_eq (before : List FunctionRecord) (record : FunctionRecord)
    (after : List FunctionRecord) (state : σ) :
    ∃ later, (outcomes backend retries description (before ++ record :: after) state).1 =
      (outcomes backend retries description before state).1 ++
        ⟨record, (score backend retries description record
          (outcomes backend retries description before state).2).1⟩ :: later :=
  ⟨_, congrArg Prod.fst
    (outcomes_append backend retries description before (record :: after) state)⟩

end Outcomes

/-! ## Reports -/

/-- The tables of results that come one by one. -/
def tablesOf (description : String) (results : List ScoredFunction) : List Ranking.Table :=
  (List.range results.length).map fun k => Ranking.tableOf description (results.take (k + 1))

theorem tablesOf_append (description : String) (first second : List ScoredFunction) :
    tablesOf description (first ++ second) =
      tablesOf description first ++ (List.range second.length).map fun k =>
        Ranking.tableOf description (first ++ second.take (k + 1)) := by
  rw [tablesOf, List.length_append, List.range_add, List.map_append, List.map_map]
  refine congr (congrArg _ (List.map_congr_left fun k hk => ?_)) (List.map_congr_left fun k _ => ?_)
  · rw [List.take_append_of_le_length (List.mem_range.mp hk)]
  · rw [Function.comp_apply, Nat.add_assoc, List.take_length_add_append]

namespace Report

/-- How a report divides outcomes. -/
structure Partitions (report : Report) (description : String) (done : List Outcome) : Prop where
  ranking : report.ranking = ⟨description, done.filterMap Outcome.success?⟩
  failures : report.failures = done.filterMap Outcome.failure?
  /-- The table after a success is made of it and of those before it. -/
  published : report.published = tablesOf description (done.filterMap Outcome.success?)

theorem partitions_empty (description : String) : (empty description).Partitions description [] :=
  ⟨rfl, rfl, rfl⟩

/-- **One more outcome is put where it belongs**, and the others stay where they are. -/
theorem Partitions.add {report : Report} {description : String} {done : List Outcome}
    (h : report.Partitions description done) (record : FunctionRecord)
    (result : Except ScoreError ScoredFunction) :
    (report.add record result).Partitions description (done ++ [⟨record, result⟩]) := by
  obtain ⟨hranking, hfailures, hpublished⟩ := h
  cases result with
  | ok scored =>
    have hsuccess : [(⟨record, .ok scored⟩ : Outcome)].filterMap Outcome.success? = [scored] := rfl
    have hfailure : [(⟨record, .ok scored⟩ : Outcome)].filterMap Outcome.failure? = [] := rfl
    constructor
    · rw [List.filterMap_append, hsuccess, Report.add, hranking]
      rfl
    · rw [List.filterMap_append, hfailure, List.append_nil]
      exact hfailures
    · rw [List.filterMap_append, hsuccess, tablesOf_append, Report.add, hranking, hpublished]
      rfl
  | error error =>
    have hsuccess : [(⟨record, .error error⟩ : Outcome)].filterMap Outcome.success? = [] := rfl
    have hfailure : [(⟨record, .error error⟩ : Outcome)].filterMap Outcome.failure? =
        [⟨record.binary, record.function, error.kind, error.message⟩] := by
      cases error <;> rfl
    constructor
    · rw [List.filterMap_append, hsuccess, List.append_nil]
      exact hranking
    · rw [List.filterMap_append, hfailure, ← hfailures]
      rfl
    · rw [List.filterMap_append, hsuccess, List.append_nil]
      exact hpublished

end Report

section ScoreAll

variable (backend : Backend σ) (retries : Nat) (description : String)

/-- Scoring may go on from any report. -/
theorem foldl_scoreNext (records : List FunctionRecord) {report : Report} {done : List Outcome}
    (h : report.Partitions description done) (state : σ) :
    (records.foldl (scoreNext backend retries description) (report, state)).1.Partitions description
        (done ++ (outcomes backend retries description records state).1) ∧
      (records.foldl (scoreNext backend retries description) (report, state)).2 =
        (outcomes backend retries description records state).2 := by
  induction records generalizing report done state with
  | nil =>
    rw [outcomes, List.append_nil]
    exact ⟨h, rfl⟩
  | cons record records ih =>
    have hadd := h.add record (score backend retries description record state).1
    obtain ⟨hreport, hstate⟩ := ih hadd (score backend retries description record state).2
    refine ⟨?_, hstate⟩
    rw [List.append_assoc] at hreport
    exact hreport

/-- **Scoring a list divides the outcomes of its functions.** -/
theorem scoreAll_eq (records : List FunctionRecord) (state : σ) :
    (scoreAll backend retries description records state).1.Partitions description
        (outcomes backend retries description records state).1 ∧
      (scoreAll backend retries description records state).2 =
        (outcomes backend retries description records state).2 :=
  foldl_scoreNext backend retries description records (Report.partitions_empty description) state

end ScoreAll

/-- **The scoring loop.** Every function of a list is scored once and in order, each with the
backend in the state that those before it leave. The report divides the outcomes: the successes are
the results, the failures are listed with their kind, and the table after each success is made of
the successes so far. Two lists in a row are scored like one, so a function that fails takes nothing
but itself away. -/
theorem scoreAll_partitions (backend : Backend σ) (retries : Nat) (description : String)
    (records : List FunctionRecord) (state : σ) :
    (outcomes backend retries description records state).1.map Outcome.record = records ∧
      (∀ before record after, records = before ++ record :: after →
        (outcomes backend retries description records state).1[before.length]? =
          some ⟨record, (score backend retries description record
            (scoreAll backend retries description before state).2).1⟩) ∧
      (scoreAll backend retries description records state).1.Partitions description
        (outcomes backend retries description records state).1 ∧
      ∀ later : List FunctionRecord,
        let first := scoreAll backend retries description records state
        let second := scoreAll backend retries description later first.2
        let both := scoreAll backend retries description (records ++ later) state
        both.2 = second.2 ∧
          both.1.ranking.results = first.1.ranking.results ++ second.1.ranking.results ∧
          both.1.failures = first.1.failures ++ second.1.failures ∧
          both.1.published = first.1.published ++
            (List.range second.1.ranking.results.length).map fun k => Ranking.tableOf description
              (first.1.ranking.results ++ second.1.ranking.results.take (k + 1)) := by
  have hlength : ∀ before : List FunctionRecord,
      (outcomes backend retries description before state).1.length = before.length := by
    intro before
    rw [← List.length_map (f := Outcome.record), map_record_outcomes]
  obtain ⟨hfirst, hstate⟩ := scoreAll_eq backend retries description records state
  refine ⟨map_record_outcomes backend retries description records state, ?_, hfirst, ?_⟩
  · rintro before record after rfl
    obtain ⟨later, houtcomes⟩ :=
      exists_outcomes_eq backend retries description before record after state
    rw [houtcomes, (scoreAll_eq backend retries description before state).2, ← hlength before,
      List.getElem?_append_right (Nat.le_refl _), Nat.sub_self, List.getElem?_cons_zero]
  · intro later
    obtain ⟨hboth, hstate'⟩ := scoreAll_eq backend retries description (records ++ later) state
    dsimp only
    rw [hstate]
    obtain ⟨hsecond, hstate''⟩ := scoreAll_eq backend retries description later
      (outcomes backend retries description records state).2
    rw [outcomes_append] at hboth hstate'
    refine ⟨hstate'.trans hstate''.symm, ?_, ?_, ?_⟩
    · rw [hboth.ranking, hfirst.ranking, hsecond.ranking, List.filterMap_append]
    · rw [hboth.failures, hfirst.failures, hsecond.failures, List.filterMap_append]
    · rw [hboth.published, hfirst.published, hfirst.ranking, hsecond.ranking, List.filterMap_append,
        tablesOf_append]

end FunctionSearch.Scoring
