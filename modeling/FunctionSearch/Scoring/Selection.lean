import FunctionSearch.Scoring.Chat
import FunctionSearch.Scoring.Command

/-!
# The configured backend

`Scoring.backend?` is the backend that settings select.
-/

namespace FunctionSearch.Scoring

/-- The backend that settings select. -/
def backend? [Libraries] {ω : Type} (settings : ModelSettings) (launcher : External.Launcher ω)
    (transport : Chat.Transport ω) : Except InferenceError (Backend ω) :=
  match settings.backend with
  | .command => Command.backend? settings launcher
  | .http => Chat.backend? settings transport

end FunctionSearch.Scoring
