import FunctionSearch.Scoring.Engine
import Mathlib.Logic.Function.Iterate
import Mathlib.Order.Nat

/-!
# Asking again

A function is scored by one question, which is asked again while the answer is a text that is no
verdict and tries are left.

* `Backend.answer` is what a backend answers to a question that is asked over and over, and
  `Backend.recording` keeps all prompts that a backend receives.
* `IsLast` says which of these answers is the last that is asked for, and `ask_of_isLast` that the
  question ends as this one reads.
* `askCounting` is the same loop with a counter of 32 bits that might overflow, and
  `askCounting_eq` says that it does not.
* `score_asks_until_decided`: how many calls the score of a function takes, and what comes of it.
-/

namespace FunctionSearch.Scoring

variable {σ : Type}

/-! ## Answers in a row -/

/-- The state of a backend that was asked a question so many times. -/
def Backend.after (backend : Backend σ) (question : String) (state : σ) (calls : Nat) : σ :=
  (fun state => (backend.complete question state).2)^[calls] state

/-- The answer of a backend to a question that it was already asked so many times. -/
def Backend.answer (backend : Backend σ) (question : String) (state : σ) (calls : Nat) :
    Except InferenceError String :=
  (backend.complete question (backend.after question state calls)).1

theorem Backend.after_succ (backend : Backend σ) (question : String) (state : σ) (calls : Nat) :
    backend.after question state (calls + 1) =
      backend.after question (backend.complete question state).2 calls := rfl

/-- A backend that gives these answers in turn. -/
def Backend.playing (answers : Nat → Except InferenceError String) : Backend Nat where
  name := "playing"
  complete _ calls := (answers calls, calls + 1)

/-- Any answers are those of some backend to its calls. -/
theorem Backend.answer_playing (answers : Nat → Except InferenceError String) (question : String) :
    (Backend.playing answers).answer question 0 = answers := by
  have hafter (start calls : Nat) :
      (Backend.playing answers).after question start calls = start + calls := by
    induction calls generalizing start with
    | zero => rfl
    | succ calls ih => exact (ih (start + 1)).trans (Nat.add_right_comm start 1 calls)
  funext calls
  rw [answer, hafter, Nat.zero_add]
  rfl

/-- A backend that also keeps the prompts it receives. -/
def Backend.recording (backend : Backend σ) : Backend (σ × List String) where
  name := backend.name
  complete prompt state :=
    let (answer, after) := backend.complete prompt state.1
    (answer, after, state.2 ++ [prompt])

theorem Backend.after_recording (backend : Backend σ) (question : String) (state : σ)
    (prompts : List String) (calls : Nat) :
    backend.recording.after question (state, prompts) calls =
      (backend.after question state calls, prompts ++ List.replicate calls question) := by
  induction calls generalizing state prompts with
  | zero => simp [after]
  | succ calls ih =>
    have hcall : (backend.recording.complete question (state, prompts)).2 =
        ((backend.complete question state).2, prompts ++ [question]) := rfl
    rw [after_succ, after_succ, hcall, ih, List.append_assoc, List.singleton_append,
      List.replicate_succ]

theorem Backend.answer_recording (backend : Backend σ) (question : String) (state : σ)
    (prompts : List String) :
    backend.recording.answer question (state, prompts) = backend.answer question state := by
  funext calls
  rw [answer, after_recording]
  rfl

/-! ## The last answer -/

/-- A text that is no verdict. -/
def Unreadable (answer : Except InferenceError String) : Prop :=
  ∃ raw defect, answer = .ok raw ∧ interpret raw = .error defect

/-- What an answer is read as. -/
def readAnswer : Except InferenceError String → Except ScoreError Verdict
  | .error error => .error (.inference error)
  | .ok raw => (interpret raw).mapError .unparseable

theorem unreadable_iff {answer : Except InferenceError String} :
    Unreadable answer ↔ ∃ defect, readAnswer answer = .error (.unparseable defect) := by
  constructor
  · rintro ⟨raw, defect, rfl, hread⟩
    refine ⟨defect, ?_⟩
    rw [readAnswer, hread]
    rfl
  · rintro ⟨defect, h⟩
    rcases answer with error | raw
    · cases h
    · dsimp only [readAnswer] at h
      cases hread : interpret raw with
      | error found => exact ⟨raw, found, rfl, hread⟩
      | ok verdict =>
        rw [hread] at h
        cases h

theorem exists_interpret_of_readAnswer {answer : Except InferenceError String}
    {verdict : Verdict} (h : readAnswer answer = .ok verdict) :
    ∃ raw, interpret raw = .ok verdict := by
  rcases answer with error | raw
  · cases h
  · dsimp only [readAnswer] at h
    cases hread : interpret raw with
    | error defect =>
      rw [hread] at h
      cases h
    | ok found =>
      rw [hread] at h
      obtain rfl := Except.ok.inj h
      exact ⟨raw, hread⟩

/-- Which of some answers is the last that is asked for: the first that is readable, or else the one
after which no try is left. -/
structure IsLast (answers : Nat → Except InferenceError String) (retries last : Nat) : Prop where
  le : last ≤ retries
  unreadable_of_lt : ∀ k < last, Unreadable (answers k)
  eq_of_unreadable : Unreadable (answers last) → last = retries

theorem isLast_zero {answers : Nat → Except InferenceError String} {retries : Nat}
    (h : Unreadable (answers 0) → 0 = retries) : IsLast answers retries 0 :=
  ⟨Nat.zero_le retries, fun _ hlt => absurd hlt (Nat.not_lt_zero _), h⟩

theorem IsLast.succ {answers : Nat → Except InferenceError String} {retries last : Nat}
    (hfirst : Unreadable (answers 0)) (h : IsLast (fun k => answers (k + 1)) retries last) :
    IsLast answers (retries + 1) (last + 1) where
  le := Nat.succ_le_succ h.le
  unreadable_of_lt
    | 0, _ => hfirst
    | k + 1, hlt => h.unreadable_of_lt k (Nat.lt_of_succ_lt_succ hlt)
  eq_of_unreadable hlast := congrArg Nat.succ (h.eq_of_unreadable hlast)

theorem IsLast.unique {answers : Nat → Except InferenceError String} {retries last other : Nat}
    (h : IsLast answers retries last) (hother : IsLast answers retries other) : last = other := by
  -- the earlier of two is unreadable, and then it is at the end of the tries
  rcases Nat.lt_trichotomy last other with hlt | heq | hlt
  · have hend := h.eq_of_unreadable (hother.unreadable_of_lt last hlt)
    exact absurd (hlt.trans_le hother.le) (hend ▸ Nat.lt_irrefl last)
  · exact heq
  · have hend := hother.eq_of_unreadable (h.unreadable_of_lt other hlt)
    exact absurd (hlt.trans_le h.le) (hend ▸ Nat.lt_irrefl other)

/-- A question ends as its answer reads, unless the answer is unreadable and tries are left. -/
theorem ask_of_last {backend : Backend σ} {question : String} {retries : Nat} {state : σ}
    (h : Unreadable (backend.complete question state).1 → 0 = retries) :
    ask backend question retries state =
      (readAnswer (backend.complete question state).1, (backend.complete question state).2) := by
  rw [ask_eq]
  rcases hcall : backend.complete question state with ⟨error | raw, after⟩
  · rfl
  · dsimp only [readAnswer]
    cases hread : interpret raw with
    | ok verdict => rfl
    | error defect =>
      rw [hcall] at h
      obtain rfl := h ⟨raw, defect, rfl, hread⟩
      rfl

/-- Then it is asked again. -/
theorem ask_of_unreadable {backend : Backend σ} {question : String} {state : σ}
    (h : Unreadable (backend.complete question state).1) (retries : Nat) :
    ask backend question (retries + 1) state =
      ask backend question retries (backend.complete question state).2 := by
  rw [ask_eq]
  rcases hcall : backend.complete question state with ⟨answer, after⟩
  rw [hcall] at h
  obtain ⟨raw, defect, rfl, hread⟩ := h
  simp only [hread]

/-- A question ends with the last answer. -/
theorem exists_isLast_ask (backend : Backend σ) (question : String) (retries : Nat) (state : σ) :
    ∃ last, IsLast (backend.answer question state) retries last ∧
      ask backend question retries state =
        (readAnswer (backend.answer question state last),
          backend.after question state (last + 1)) := by
  induction retries generalizing state with
  | zero => exact ⟨0, isLast_zero fun _ => rfl, ask_of_last fun _ => rfl⟩
  | succ retries ih =>
    by_cases hfirst : Unreadable (backend.answer question state 0)
    · obtain ⟨last, hlast, hask⟩ := ih (backend.complete question state).2
      exact ⟨last + 1, IsLast.succ hfirst hlast, (ask_of_unreadable hfirst retries).trans hask⟩
    · exact ⟨0, isLast_zero fun h => absurd h hfirst, ask_of_last fun h => absurd h hfirst⟩

theorem ask_of_isLast {backend : Backend σ} {question : String} {retries last : Nat} {state : σ}
    (h : IsLast (backend.answer question state) retries last) :
    ask backend question retries state =
      (readAnswer (backend.answer question state last),
        backend.after question state (last + 1)) := by
  obtain ⟨found, hfound, hask⟩ := exists_isLast_ask backend question retries state
  rw [hask, hfound.unique h]

/-- A question that gets a verdict in the end got a text that is read as one. -/
theorem exists_interpret_of_ask {backend : Backend σ} {prompt : String} {retries : Nat} {state : σ}
    {verdict : Verdict} (h : (ask backend prompt retries state).1 = .ok verdict) :
    ∃ raw, interpret raw = .ok verdict := by
  obtain ⟨last, -, hask⟩ := exists_isLast_ask backend prompt retries state
  rw [hask] at h
  exact exists_interpret_of_readAnswer h

/-! ## Scores -/

/-- What an answer settles about a function: that its call failed, or the score that it is read
as. -/
inductive Decides (record : FunctionRecord) :
    Except InferenceError String → Except ScoreError ScoredFunction → Prop
  | inference (error : InferenceError) :
    Decides record (.error error) (.error (.inference error))
  | verdict {raw : String} {verdict : Verdict} (h : interpret raw = .ok verdict) :
    Decides record (.ok raw) (.ok (.ofVerdict record verdict.score verdict.explanation))

/-- The result of a function, from what the last answer is read as. -/
def resultFor (record : FunctionRecord) (reading : Except ScoreError Verdict) :
    Except ScoreError ScoredFunction :=
  reading.map fun verdict => .ofVerdict record verdict.score verdict.explanation

theorem resultFor_of_decides {record : FunctionRecord} {answer : Except InferenceError String}
    {result : Except ScoreError ScoredFunction} (h : Decides record answer result) :
    resultFor record (readAnswer answer) = result := by
  cases h with
  | inference error => rfl
  | verdict h => simp [resultFor, readAnswer, h, Except.map, Except.mapError]

/-- An answer settles nothing exactly if it is a text that is no verdict. -/
theorem unreadable_iff_forall_not_decides (record : FunctionRecord)
    {answer : Except InferenceError String} :
    Unreadable answer ↔ ∀ result, ¬ Decides record answer result := by
  constructor
  · rintro ⟨raw, defect, rfl, hdefect⟩ result (_ | hverdict)
    cases hdefect.symm.trans hverdict
  · intro h
    cases answer with
    | error error => exact absurd (.inference error) (h _)
    | ok raw =>
      cases hread : interpret raw with
      | ok verdict => exact absurd (.verdict hread) (h _)
      | error defect => exact ⟨raw, defect, rfl, hread⟩

theorem score_of_isLast {backend : Backend σ} {retries last : Nat} {description : String}
    {record : FunctionRecord} {state : σ}
    (h : IsLast (backend.answer (prompt description record.code) state) retries last) :
    score backend retries description record state =
      (resultFor record (readAnswer (backend.answer (prompt description record.code) state last)),
        backend.after (prompt description record.code) state (last + 1)) := by
  rw [score, ask_of_isLast h, resultFor]

/-- All calls of a score have the same prompt. -/
theorem score_recording_of_isLast {backend : Backend σ} {retries last : Nat} {description : String}
    {record : FunctionRecord} {state : σ}
    (h : IsLast (backend.answer (prompt description record.code) state) retries last) :
    score backend.recording retries description record (state, []) =
      (resultFor record (readAnswer (backend.answer (prompt description record.code) state last)),
        backend.after (prompt description record.code) state (last + 1),
        List.replicate (last + 1) (prompt description record.code)) := by
  rw [← backend.answer_recording _ state []] at h
  rw [score_of_isLast h, Backend.answer_recording, Backend.after_recording, List.nil_append]

/-! ## The counter -/

/-- The number of the next attempt, if the counter can hold it. -/
def nextAttempt? (attempt : UInt32) : Option UInt32 :=
  if attempt.toNat + 1 < UInt32.size then some (attempt + 1) else none

theorem toNat_of_nextAttempt? {attempt next : UInt32} (h : nextAttempt? attempt = some next) :
    next.toNat = attempt.toNat + 1 := by
  rw [nextAttempt?] at h
  split at h
  next hfits =>
    obtain rfl := Option.some.inj h
    rw [UInt32.toNat_add]
    exact Nat.mod_eq_of_lt hfits
  · cases h

/-- What is below a number of 32 bits is not the largest. -/
theorem nextAttempt?_of_lt {attempt retries : UInt32} (h : attempt < retries) :
    nextAttempt? attempt = some (attempt + 1) :=
  if_pos (Nat.lt_of_le_of_lt (UInt32.lt_iff_toNat_lt.mp h) retries.toNat_lt_size)

/-- Ask a question and count the attempts that failed so far, unless their number overflows. -/
def askCounting (backend : Backend σ) (question : String) (retries attempt : UInt32) (state : σ) :
    Option (Except ScoreError Verdict × σ) :=
  match backend.complete question state with
  | (answer, after) =>
    match readAnswer answer with
    | .error (.unparseable defect) =>
      if attempt < retries then
        match _ : nextAttempt? attempt with
        | some next => askCounting backend question retries next after
        | none => none
      else some (.error (.unparseable defect), after)
    | reading => some (reading, after)
termination_by retries.toNat - attempt.toNat
decreasing_by
  have hlt := UInt32.lt_iff_toNat_lt.mp ‹attempt < retries›
  have hnext := toNat_of_nextAttempt? ‹nextAttempt? attempt = some _›
  omega

/-- An attempt is the last one if its answer is readable or no try is left. -/
theorem askCounting_of_last {backend : Backend σ} {question : String} {retries attempt : UInt32}
    {state : σ} (h : Unreadable (backend.complete question state).1 → ¬ attempt < retries) :
    askCounting backend question retries attempt state =
      some (readAnswer (backend.complete question state).1,
        (backend.complete question state).2) := by
  rw [askCounting]
  rcases hcall : backend.complete question state with ⟨answer, after⟩
  rw [hcall] at h
  dsimp only
  split
  next defect hread =>
    rw [if_neg (h (unreadable_iff.mpr ⟨defect, hread⟩)), hread]
  · rfl

/-- After any other attempt there is a next one. -/
theorem askCounting_of_unreadable {backend : Backend σ} {question : String}
    {retries attempt : UInt32} {state : σ} (h : Unreadable (backend.complete question state).1)
    (hlt : attempt < retries) :
    askCounting backend question retries attempt state =
      askCounting backend question retries (attempt + 1) (backend.complete question state).2 := by
  rw [askCounting]
  rcases hcall : backend.complete question state with ⟨answer, after⟩
  obtain ⟨defect, hread⟩ := unreadable_iff.mp h
  rw [hcall] at hread
  simp only [hread, if_pos hlt]
  split
  next next hnext =>
    cases (nextAttempt?_of_lt hlt).symm.trans hnext
    rfl
  next hnext => cases (nextAttempt?_of_lt hlt).symm.trans hnext

/-- **The counter does not overflow**: an attempt has the tries that its number leaves. -/
theorem askCounting_eq (backend : Backend σ) (question : String) {retries attempt : UInt32}
    (h : attempt ≤ retries) (state : σ) :
    askCounting backend question retries attempt state =
      some (ask backend question (retries.toNat - attempt.toNat) state) := by
  generalize hleft : retries.toNat - attempt.toNat = left
  rw [UInt32.le_iff_toNat_le] at h
  induction left generalizing attempt state with
  | zero =>
    have hend : ¬ attempt < retries := by
      rw [UInt32.lt_iff_toNat_lt]
      omega
    rw [ask_of_last fun _ => rfl, askCounting_of_last fun _ => hend]
  | succ left ih =>
    have hlt : attempt < retries := by
      rw [UInt32.lt_iff_toNat_lt]
      omega
    have hnext : (attempt + 1).toNat = attempt.toNat + 1 :=
      toNat_of_nextAttempt? (nextAttempt?_of_lt hlt)
    by_cases hread : Unreadable (backend.complete question state).1
    · rw [ask_of_unreadable hread, askCounting_of_unreadable hread hlt]
      exact ih (by omega) _ (by omega)
    · rw [ask_of_last fun h => absurd h hread, askCounting_of_last fun h => absurd h hread]

/-- The score of one function, with a counter of the attempts. -/
def scoreCounting (backend : Backend σ) (retries : UInt32) (description : String)
    (record : FunctionRecord) (state : σ) : Option (Except ScoreError ScoredFunction × σ) :=
  (askCounting backend (prompt description record.code) retries 0 state).map fun (reading, after) =>
    (resultFor record reading, after)

theorem scoreCounting_eq (backend : Backend σ) (retries : UInt32) (description : String)
    (record : FunctionRecord) (state : σ) :
    scoreCounting backend retries description record state =
      some (score backend retries.toNat description record state) := by
  rw [scoreCounting, askCounting_eq backend _ (UInt32.zero_le) state]
  rfl

/-! ## Calls -/

/-- **A function is scored by asking until an answer settles it.** Among the answers to its prompt,
the first that is a failed call or reads as a score decides, if it is one of the first
`retries + 1`; then the backend is called up to this answer and no more. If there is none, it is
called `retries + 1` times, and what is wrong with the last answer is the result. All calls have the
same prompt, none follows a failed one, and the counter of the attempts does not overflow. -/
theorem score_asks_until_decided (backend : Backend σ) (retries : UInt32) (description : String)
    (record : FunctionRecord) (state : σ) :
    let question := prompt description record.code
    let answer := backend.answer question state
    let run := score backend.recording retries.toNat description record (state, [])
    (∀ i result, i ≤ retries.toNat → Decides record (answer i) result →
      (∀ k < i, ∀ other, ¬ Decides record (answer k) other) →
      run = (result, backend.after question state (i + 1), List.replicate (i + 1) question)) ∧
    ((∀ k ≤ retries.toNat, ∀ result, ¬ Decides record (answer k) result) →
      ∃ raw defect, answer retries.toNat = .ok raw ∧ interpret raw = .error defect ∧
        run = (.error (.unparseable defect), backend.after question state (retries.toNat + 1),
          List.replicate (retries.toNat + 1) question)) ∧
    (∀ k error, answer k = .error error → run.2.2.length ≤ k + 1) ∧
    score backend retries.toNat description record state = (run.1, run.2.1) ∧
    scoreCounting backend retries description record state = some (run.1, run.2.1) := by
  intro question answer run
  have hunreadable (k : Nat) :
      Unreadable (answer k) ↔ ∀ result, ¬ Decides record (answer k) result :=
    unreadable_iff_forall_not_decides record
  obtain ⟨last, hlast, -⟩ := exists_isLast_ask backend question retries.toNat state
  have hrun : run = (resultFor record (readAnswer (answer last)),
      backend.after question state (last + 1), List.replicate (last + 1) question) :=
    score_recording_of_isLast hlast
  have hsame : score backend retries.toNat description record state = (run.1, run.2.1) := by
    rw [hrun]
    exact score_of_isLast hlast
  refine ⟨fun i result hle hresult hearlier => ?_, fun hnone => ?_, fun k error hfailed => ?_,
    hsame, hsame ▸ scoreCounting_eq backend retries description record state⟩
  · have hi : IsLast answer retries.toNat i :=
      ⟨hle, fun k hk => (hunreadable k).mpr (hearlier k hk),
        fun h => absurd hresult ((hunreadable i).mp h result)⟩
    rw [hrun, hlast.unique hi, resultFor_of_decides hresult]
  · have hend : IsLast answer retries.toNat retries.toNat :=
      ⟨Nat.le_refl _, fun k hk => (hunreadable k).mpr (hnone k hk.le), fun _ => rfl⟩
    obtain ⟨raw, defect, hanswer, hread⟩ :=
      (hunreadable retries.toNat).mpr (hnone _ (Nat.le_refl _))
    refine ⟨raw, defect, hanswer, hread, ?_⟩
    rw [hrun, hlast.unique hend, hanswer, readAnswer, hread]
    rfl
  · rw [hrun, List.length_replicate, Nat.succ_le_succ_iff]
    by_contra hlt
    obtain ⟨raw, defect, hanswer, -⟩ := hlast.unreadable_of_lt k (Nat.lt_of_not_le hlt)
    cases hfailed.symm.trans hanswer

/-- A text that is no verdict, and then verdicts. -/
def secondTry : Nat → Except InferenceError String
  | 0 => .ok "maybe"
  | _ + 1 => .ok "5\nsome evidence"

/-- The second answer to a function that may be asked about once more. -/
theorem score_asks_until_decided_second :
    score (Backend.playing secondTry).recording 1 "rc4" ⟨"b", "f", "code"⟩ (0, []) =
      (.ok ⟨"b", "f", 5, "some evidence"⟩, 2, List.replicate 2 (prompt "rc4" "code")) := by
  have hanswer := Backend.answer_playing secondTry (prompt "rc4" "code")
  obtain ⟨hdecided, -⟩ :=
    score_asks_until_decided (Backend.playing secondTry) 1 "rc4" ⟨"b", "f", "code"⟩ 0
  have hread : interpret "5\nsome evidence" = .ok ⟨5, "some evidence"⟩ := by
    decide +kernel
  have hdefect : interpret "maybe" = .error (.notAnInteger "maybe") := by
    decide +kernel
  refine hdecided 1 (.ok ⟨"b", "f", 5, "some evidence"⟩) (Nat.le_refl 1) ?_ fun k hk => ?_
  · rw [hanswer]
    exact .verdict hread
  · obtain rfl := Nat.lt_one_iff.mp hk
    rw [hanswer, ← unreadable_iff_forall_not_decides]
    exact ⟨"maybe", _, rfl, hdefect⟩

end FunctionSearch.Scoring
