import FunctionSearch.Document.Json
import FunctionSearch.Document.Yaml
import FunctionSearch.Files.Tree
import FunctionSearch.Json.Parser
import FunctionSearch.Settings.Basic

/-!
# Settings files

* `Settings.ofDocument?`: the settings that a document gives, the defaults where it says nothing;
* `Settings.load`: the settings of a file, whose extension tells the notation;
* `LoadError`: why a file gives no settings.
-/

namespace FunctionSearch

open Document

/-- The bound of numbers of 32 bits. -/
def bound32 : Nat := Nat.pow 2 32

/-- The bound of numbers of 64 bits. -/
def bound64 : Nat := Nat.pow 2 64

section

variable {δ : Type} [Document δ]

/-- Decompiler settings read from a document. -/
def DecompilerSettings.ofDocument? (value : δ) : Option DecompilerSettings := do
  let [headless, jobs, timeout, analysis] ←
    columns? ["headless_path", "jobs", "timeout_secs", "analysis_timeout_per_file"]
      (← layout? value) | none
  let unsaid : DecompilerSettings := {}
  return {
    headlessPath :=
      (← withDefault (unsaid.headlessPath.map Path.display) (optional text?) headless).map
        Path.ofString
    jobs := ← withDefault unsaid.jobs (optional (naturalBelow? bound64)) jobs
    timeoutSeconds := ← withDefault unsaid.timeoutSeconds (naturalBelow? bound64) timeout
    analysisTimeout :=
      ← withDefault unsaid.analysisTimeout (optional (naturalBelow? bound64)) analysis }

/-- A way to reach the model read from a document. -/
def BackendKind.ofDocument? (value : δ) : Option BackendKind := do
  BackendKind.ofWord? (← word? value)

/-- Model settings read from a document. -/
def ModelSettings.ofDocument? (value : δ) : Option ModelSettings := do
  let [backend, endpoint, model, apiKey, command, maxTokens, timeout, retries] ←
    columns? ["backend", "endpoint", "model", "api_key", "command", "max_tokens", "timeout_secs",
      "parse_retries"] (← layout? value) | none
  let unsaid : ModelSettings := {}
  return {
    backend := ← withDefault unsaid.backend BackendKind.ofDocument? backend
    endpoint := ← withDefault unsaid.endpoint text? endpoint
    model := ← withDefault unsaid.model text? model
    apiKey := ← withDefault unsaid.apiKey (optional text?) apiKey
    command := ← withDefault unsaid.command texts? command
    maxTokens := ← withDefault unsaid.maxTokens (naturalBelow? bound32) maxTokens
    timeoutSeconds := ← withDefault unsaid.timeoutSeconds (naturalBelow? bound64) timeout
    parseRetries := ← withDefault unsaid.parseRetries (naturalBelow? bound32) retries }

/-- Settings read from a document. -/
def Settings.ofDocument? (value : δ) : Option Settings := do
  let [decompiler, model] ← columns? ["decompiler", "model"] (← layout? value) | none
  return {
    decompiler := ← withDefault {} DecompilerSettings.ofDocument? decompiler
    model := ← withDefault {} ModelSettings.ofDocument? model }

end

namespace Settings

/-- Why a file gives no settings. -/
inductive LoadError where
  | unreadable (path : Path) (cause : IoError)
  | badJson
  | badYaml
  | unsupported (extension : String)
  deriving DecidableEq, Repr

/-- The text of a failure to load. -/
def LoadError.message : LoadError → String
  | .unreadable path _ => s!"Failed to read config at {path.display}"
  | .badJson => "Failed to parse config JSON"
  | .badYaml => "Failed to parse config YAML"
  | .unsupported extension =>
    s!"Unsupported config format '{extension}' (use .json, .yaml or .yml)"

/-- The extension of a path as text, empty if it has none or is no text. -/
def extensionOf (path : Path) : String :=
  (path.extension?.bind Text.strict?).getD ""

/-- The settings that a JSON text gives. -/
def ofJson? (text : String) : Option Settings := do
  ofDocument? (← Json.parse? text)

/-- The settings that a YAML text gives. -/
def ofYaml? (text : String) : Option Settings := do
  ofDocument? (← Yaml.Rooted.parse? text)

/-- The settings of a text in the notation of an extension. -/
def parse (extension text : String) : Except LoadError Settings :=
  if extension == "json" then (ofJson? text).elim (.error .badJson) .ok
  else if extension == "yaml" || extension == "yml" then (ofYaml? text).elim (.error .badYaml) .ok
  else .error (.unsupported extension)

/-- The settings of a file. -/
def load (tree : FileTree) (path : Path) : Except LoadError Settings :=
  match tree.readText path with
  | .error cause => .error (.unreadable path cause)
  | .ok text => parse (extensionOf path) text

end Settings

end FunctionSearch
