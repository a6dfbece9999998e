import FunctionSearch.CommandLine.Failure
import FunctionSearch.Decompiler.Headless
import FunctionSearch.Scoring.Selection

/-!
# Commands

What all commands share.

* `Services`: the outside that a command may call upon;
* `Printed`: what a command prints, and what it ends with;
* `searchOf`: the search that settings select.
-/

namespace FunctionSearch.CommandLine

/-- The environment, the programs and the servers. -/
structure Services (σ : Type) where
  environment : Environment
  launcher : External.Launcher (World σ)
  transport : Scoring.Chat.Transport (World σ)

/-- What a command prints, and what it ends with. -/
structure Printed (α : Type) where
  stdout : String
  /-- The steps of a batch, which are shown while it runs. -/
  progress : List Batch.Step
  result : Except CommandError α

/-- A command that prints nothing and fails. -/
def Printed.failure {α : Type} (error : CommandError) : Printed α :=
  ⟨"", [], .error error⟩

/-- The lines of a batch. -/
def progressText (steps : List Batch.Step) : String :=
  String.join (steps.map Batch.Step.line)

/-- What a command prints on the error stream. -/
def Printed.stderr {α : Type} (printed : Printed α) : String :=
  progressText printed.progress

variable {σ : Type}

/-- The settings of a command. -/
def settingsOf (services : Services σ) (tree : FileTree) (config : Option Path)
    (overrides : Settings.Overrides) : Except CommandError Settings :=
  (Settings.resolve tree services.environment config overrides).mapError .settings

/-- The decompiler that settings select. -/
def decompilerOf (services : Services σ) (tree : FileTree) (settings : Settings) :
    Except CommandError (Decompiler σ) :=
  match Headless.ofSettings tree services.environment settings.decompiler with
  | .ok analyzer => .ok (analyzer.decompiler services.launcher)
  | .error error => .error (.analyzer error)

/-- The search that settings select. -/
def searchOf [Libraries] (services : Services σ) (tree : FileTree) (settings : Settings) :
    Except CommandError (Search σ) := do
  let decompiler ← decompilerOf services tree settings
  let backend ←
    (Scoring.backend? settings.model services.launcher services.transport).mapError .model
  return { decompiler, backend, retries := settings.model.parseRetries }

/-- The tree with an output directory. -/
def makeOutput (tree : FileTree) (output : Path) : Except CommandError FileTree :=
  (tree.makeDirectories output).mapError (.outputDirectory output)

end FunctionSearch.CommandLine
