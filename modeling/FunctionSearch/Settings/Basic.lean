import FunctionSearch.Duration
import FunctionSearch.Files.Path
import FunctionSearch.Json.Basic

/-!
# Settings

How binaries are decompiled and how the model is reached.

* `DecompilerSettings`, `ModelSettings`, `Settings`: the values, with their defaults;
* `Settings.toJson?`: the settings as a document, without what is unset.
-/

namespace FunctionSearch

/-- How a binary is decompiled. -/
structure DecompilerSettings where
  /-- The analyzer, if it is named. -/
  headlessPath : Option Path := none
  /-- The number of binaries that are decompiled at a time. -/
  jobs : Option Nat := none
  /-- The limit of one run in seconds; zero is no limit. -/
  timeoutSeconds : Nat := 600
  /-- A limit in seconds that the analyzer itself keeps. -/
  analysisTimeout : Option Nat := none
  deriving DecidableEq, Repr

/-- How the model is reached. -/
inductive BackendKind where
  | http
  | command
  deriving DecidableEq, Repr

/-- The word for a way to reach the model. -/
def BackendKind.word : BackendKind → String
  | .http => "http"
  | .command => "command"

/-- The way to reach the model that a word names. -/
def BackendKind.ofWord? (word : String) : Option BackendKind :=
  [http, command].find? (·.word == word)

/-- Which model is asked, and how. -/
structure ModelSettings where
  backend : BackendKind := .http
  endpoint : String := "http://127.0.0.1:8080/v1"
  model : String := "mistral-7b-instruct-v0.2"
  apiKey : Option String := none
  /-- The program that is asked, with its arguments. -/
  command : List String := []
  maxTokens : Nat := 200
  /-- The limit of one call in seconds; zero is no limit. -/
  timeoutSeconds : Nat := 120
  /-- How often an answer that cannot be read is asked for again. -/
  parseRetries : Nat := 0
  deriving DecidableEq, Repr

/-- All settings. -/
structure Settings where
  decompiler : DecompilerSettings := {}
  model : ModelSettings := {}
  deriving DecidableEq, Repr

/-- The limit of one decompiler run. -/
def DecompilerSettings.timeout? (settings : DecompilerSettings) : Option Duration :=
  Duration.deadline? settings.timeoutSeconds

/-- The number of workers: the configured number unless it is zero, and `available` otherwise. -/
def DecompilerSettings.workers (settings : DecompilerSettings) (available : Nat) : Nat :=
  (settings.jobs.filter (0 < ·)).getD available

/-- The limit of one call of the model. -/
def ModelSettings.timeout? (settings : ModelSettings) : Option Duration :=
  Duration.deadline? settings.timeoutSeconds

/-! ## Writing -/

/-- A field that is left out when it has no value. -/
def fieldIfSome {α : Type} (name : String) (f : α → Json) : Option α → List (String × Json)
  | some value => [(name, f value)]
  | none => []

/-- The decompiler settings as a document. A path that is no text cannot be written. -/
def DecompilerSettings.toJson? (settings : DecompilerSettings) : Option Json := do
  let headless ← match settings.headlessPath with
    | none => some none
    | some path => path.text?.map some
  return .record (fieldIfSome "headless_path" .text headless ++
    fieldIfSome "jobs" .natural settings.jobs ++
    [("timeout_secs", .natural settings.timeoutSeconds)] ++
    fieldIfSome "analysis_timeout_per_file" .natural settings.analysisTimeout)

/-- The model settings as a document. -/
def ModelSettings.toJson (settings : ModelSettings) : Json :=
  .record ([("backend", .text settings.backend.word), ("endpoint", .text settings.endpoint),
      ("model", .text settings.model)] ++
    fieldIfSome "api_key" .text settings.apiKey ++
    (if settings.command.isEmpty then []
      else [("command", .array (settings.command.map .text))]) ++
    [("max_tokens", .natural settings.maxTokens),
      ("timeout_secs", .natural settings.timeoutSeconds),
      ("parse_retries", .natural settings.parseRetries)])

/-- The settings as a document. -/
def Settings.toJson? (settings : Settings) : Option Json := do
  return .record [("decompiler", ← settings.decompiler.toJson?), ("model", settings.model.toJson)]

end FunctionSearch
