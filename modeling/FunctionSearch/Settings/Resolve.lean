import FunctionSearch.Settings.Load
import FunctionSearch.Text.Blank

/-!
# Effective settings

The settings of a run: those of its file or the defaults, then the environment, then the flags.

* `Settings.applyEnvironment`: the environment replaces the endpoint, and gives the key only where
  the file gives none;
* `Overrides` and `Settings.override`: flags win over both;
* `Settings.resolve`: all three steps, or the first failure.
-/

namespace FunctionSearch

namespace Settings

/-- The variable that holds the key of the model. -/
def apiKeyVariable : String := "MONOCLE_API_KEY"

/-- The variable that holds the address of the model. -/
def endpointVariable : String := "MONOCLE_ENDPOINT"

/-- The value of a variable, if it is set and not empty. -/
def nonEmpty? (lookup : String → Option String) (name : String) : Option String :=
  (lookup name).filter (!·.isEmpty)

/-- Lay the environment over settings. -/
def applyEnvironment (lookup : String → Option String) (settings : Settings) : Settings :=
  { settings with model := { settings.model with
      apiKey := settings.model.apiKey.or (nonEmpty? lookup apiKeyVariable)
      endpoint := (nonEmpty? lookup endpointVariable).getD settings.model.endpoint } }

/-- What flags say. -/
structure Overrides where
  headless : Option Path := none
  jobs : Option Nat := none
  endpoint : Option String := none
  model : Option String := none
  /-- A program with its arguments, separated by white space. -/
  modelCommand : Option String := none
  deriving DecidableEq, Repr

/-- Why there are no settings for a run. -/
inductive ResolveError where
  | load (error : LoadError)
  | noJobs
  | noCommand
  deriving DecidableEq, Repr

/-- The text of a failure. -/
def ResolveError.message : ResolveError → String
  | .load error => error.message
  | .noJobs => "--jobs must be at least 1"
  | .noCommand => "--model-command must name a program"

/-- The texts of the failures behind a failure, as far as this program words them. -/
def ResolveError.causes : ResolveError → List String
  | .load (.unreadable _ cause) => [cause.message]
  | _ => []

/-- The words of a command. -/
def commandWords (command : String) : List String :=
  (Text.words command.toList).map String.ofList

/-- Lay the flags over settings. -/
def override (overrides : Overrides) (settings : Settings) : Except ResolveError Settings :=
  let decompiler := { settings.decompiler with
    headlessPath := overrides.headless.or settings.decompiler.headlessPath
    jobs := overrides.jobs.or settings.decompiler.jobs }
  let model := { settings.model with
    endpoint := overrides.endpoint.getD settings.model.endpoint
    model := overrides.model.getD settings.model.model }
  if overrides.jobs = some 0 then .error .noJobs
  else match overrides.modelCommand with
    | none => .ok { decompiler, model }
    | some command =>
      match commandWords command with
      | [] => .error .noCommand
      | words => .ok { decompiler, model := { model with backend := .command, command := words } }

/-- The settings of the file that is named, or the defaults. -/
def loadOrDefault (tree : FileTree) : Option Path → Except ResolveError Settings
  | some path => (load tree path).mapError .load
  | none => .ok {}

/-- The settings of a run. -/
def resolve (tree : FileTree) (lookup : String → Option String) (path : Option Path)
    (overrides : Overrides) : Except ResolveError Settings :=
  match loadOrDefault tree path with
  | .error error => .error error
  | .ok settings => override overrides (applyEnvironment lookup settings)

end Settings

end FunctionSearch
