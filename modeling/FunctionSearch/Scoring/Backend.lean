import FunctionSearch.Duration
import FunctionSearch.Scoring.Verdict

/-!
# Inference backends

Whatever completes a prompt: a machine whose state changes with every call.

* `Backend`: the machine;
* `InferenceError`: why a call gives no text, with `InferenceError.message` its text;
* `completion?`: a blank completion counts as none.
-/

namespace FunctionSearch.Scoring

/-- Why a request failed that got no usable reply. -/
inductive RequestFailure where
  /-- The reply is no completion document, for this reason if one is given. -/
  | unreadable (complaint : Option String)
  /-- There is no way to write the request. -/
  | unwritable
  /-- No exchange took place with the server at this address. -/
  | notDelivered (url : String)
  /-- The body of the reply did not come whole. -/
  | cutShort
  /-- A reason given as text. -/
  | because (text : String)
  deriving DecidableEq, Repr

/-- The text of a failed request. -/
def RequestFailure.message : RequestFailure → String
  | .unreadable none => "failed to parse completion JSON"
  | .unreadable (some complaint) => s!"failed to parse completion JSON: {complaint}"
  | .unwritable => "builder error"
  | .notDelivered url => s!"error sending request for url ({url})"
  | .cutShort => "error decoding response body"
  | .because text => text

/-- Why a call of a backend gives no text. -/
inductive InferenceError where
  | request (failure : RequestFailure)
  | status (code : Nat) (body : String)
  | command (text : String)
  | timeout (limit : Duration)
  | emptyResponse
  | config (text : String)
  deriving DecidableEq, Repr

/-- The text of a failed call. -/
def InferenceError.message : InferenceError → String
  | .request failure => s!"inference request failed: {failure.message}"
  | .status code body => s!"inference endpoint returned {code}: {body}"
  | .command text => s!"inference command failed: {text}"
  | .timeout limit => s!"inference timed out after {limit.wholeSeconds}s"
  | .emptyResponse => "inference returned no text"
  | .config text => s!"inference backend misconfigured: {text}"

/-- A machine that completes prompts. -/
structure Backend (σ : Type) where
  name : String
  complete : String → σ → Except InferenceError String × σ

/-- A completion, unless it is blank. -/
def completion? (text : String) : Except InferenceError String :=
  if Text.hasContent text.toList then .ok text else .error .emptyResponse

end FunctionSearch.Scoring
