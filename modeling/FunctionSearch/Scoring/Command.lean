import FunctionSearch.External.Program
import FunctionSearch.Scoring.Backend
import FunctionSearch.Settings.Basic

/-!
# Completions by a program

A backend that starts a program for every prompt, gives it the prompt to read and takes what it
prints.

* `Command.completionOf`: what an output means;
* `Command.backend?`: the backend for a configured command, which must not be empty.
-/

namespace FunctionSearch.Scoring.Command

/-- The number of lines of the error stream that a failure quotes. -/
def quotedLines : Nat := 5

/-- The completion that the output of a program gives. -/
def completionOf (program : String) (output : External.Output) : Except InferenceError String :=
  if output.status.isSuccess then completion? (Text.lossy output.stdout)
  else .error (.command
    s!"{program} exited with {output.status.text}: {output.stderrTail quotedLines}")

/-- The completion that a run of a program gives. -/
def resultOf (program : String) : Except External.Failure External.Output →
    Except InferenceError String
  | .ok output => completionOf program output
  | .error (.timeout _ limit) => .error (.timeout limit)
  | .error failure => .error (.command failure.message)

/-- The run that completes a prompt. -/
def invocation (program : String) (arguments : List String) (limit : Option Duration)
    (prompt : String) : External.Invocation where
  program := .ofString program
  arguments := arguments.map Text.bytes
  input := some (Text.bytes prompt)
  limit := limit

/-- The backend that starts a program. -/
def backend {ω : Type} (launcher : External.Launcher ω) (program : String) (arguments : List String)
    (limit : Option Duration) : Backend ω where
  name := "command"
  complete prompt world :=
    let (outcome, world) := External.run launcher (invocation program arguments limit prompt) world
    (resultOf program outcome, world)

/-- The backend for the configured command. -/
def backend? {ω : Type} (settings : ModelSettings) (launcher : External.Launcher ω) :
    Except InferenceError (Backend ω) :=
  match settings.command with
  | [] => .error (.config "model.command is empty")
  | program :: arguments => .ok (backend launcher program arguments settings.timeout?)

end FunctionSearch.Scoring.Command
