import FunctionSearch.Proofs.Text.Words
import FunctionSearch.Scoring.Selection
import FunctionSearch.Settings.Resolve
import Mathlib.Data.List.Basic

/-!
# Which layer prevails

The settings of a run are those of its file or the defaults, over which the environment and the
flags are laid.

* `Prevails`: the value of the first layer that has one.
* `Gives`: the value that a variable of the environment gives.
* `Layered` says of every field of settings which layers it comes from, in which order, and
  `Layered.unique` that this leaves no choice.
* `Refused`: the reasons for which there are no settings, in the order in which they are looked for.
* `resolve_layers`: there are layered settings or a reason, and settings with a command on the flags
  have a backend.
-/

namespace FunctionSearch.Settings

/-! ## Layers -/

/-- The value of the first layer that has one. -/
inductive Prevails {α : Type} : List (Option α) → α → Prop
  | here (value : α) (layers : List (Option α)) : Prevails (some value :: layers) value
  | later {value : α} {layers : List (Option α)} (h : Prevails layers value) :
      Prevails (none :: layers) value

namespace Prevails

variable {α : Type} {layers : List (Option α)} {value other : α}

theorem unique (h : Prevails layers value) (h' : Prevails layers other) : value = other := by
  induction h with
  | here => cases h'; rfl
  | later _ ih => cases h' with
    | later h' => exact ih h'

theorem or_iff {first second : Option α} :
    Prevails [first, second] value ↔ first.or second = some value := by
  cases first with
  | some a =>
    rw [Option.some_or, Option.some.injEq]
    exact ⟨fun h => by cases h; rfl, fun h => h ▸ .here a _⟩
  | none =>
    rw [Option.none_or]
    refine ⟨fun h => ?_, fun h => h ▸ .later (.here value [])⟩
    obtain _ | ⟨_ | ⟨⟨⟩⟩⟩ := h
    rfl

/-- The lowest layer stands for all the others. -/
theorem getD {first : Option α} (h : Prevails layers value) :
    Prevails (first :: layers) (first.getD value) := by
  cases first with
  | some a => exact .here a layers
  | none => exact .later h

end Prevails

/-- What a variable of the environment gives: the value that it is set to, unless that is empty. -/
def Gives (lookup : String → Option String) (name : String) (given? : Option String) : Prop :=
  ∀ value, given? = some value ↔ lookup name = some value ∧ value ≠ ""

theorem Gives.unique {lookup : String → Option String} {name : String}
    {given? other? : Option String} (h : Gives lookup name given?) (h' : Gives lookup name other?) :
    given? = other? :=
  Option.ext fun value => (h value).trans (h' value).symm

theorem gives_nonEmpty? (lookup : String → Option String) (name : String) :
    Gives lookup name (nonEmpty? lookup name) := by
  intro value
  rw [nonEmpty?, Option.filter_eq_some_iff, Bool.not_eq_true', String.isEmpty_eq_false_iff]

/-- The settings that the others are laid over: those of the file that is named, or the defaults. -/
inductive Base (tree : FileTree) : Option Path → Settings → Prop
  | defaults : Base tree none {}
  | loaded {path : Path} {settings : Settings} (h : load tree path = .ok settings) :
      Base tree (some path) settings

/-- Settings that come from a file, the environment and flags. -/
structure Layered (lookup : String → Option String) (overrides : Overrides)
    (file settings : Settings) : Prop where
  headlessPath : ∀ path, settings.decompiler.headlessPath = some path ↔
    Prevails [overrides.headless, file.decompiler.headlessPath] path
  jobs : ∀ n, settings.decompiler.jobs = some n ↔
    Prevails [overrides.jobs, file.decompiler.jobs] n
  model : Prevails [overrides.model, some file.model.model] settings.model.model
  endpoint : ∃ given?, Gives lookup "MONOCLE_ENDPOINT" given? ∧
    Prevails [overrides.endpoint, given?, some file.model.endpoint] settings.model.endpoint
  /-- The environment gives the key only where the file gives none. -/
  apiKey : ∃ given?, Gives lookup "MONOCLE_API_KEY" given? ∧
    ∀ key, settings.model.apiKey = some key ↔ Prevails [file.model.apiKey, given?] key
  commanded : ∀ command ∈ overrides.modelCommand, settings.model.backend = .command ∧
    Text.Worded command.toList (settings.model.command.map String.toList)
  uncommanded : overrides.modelCommand = none →
    settings.model.backend = file.model.backend ∧ settings.model.command = file.model.command
  /-- No layer but the file touches the other fields. -/
  decompilerFrame : settings.decompiler.timeoutSeconds = file.decompiler.timeoutSeconds ∧
    settings.decompiler.analysisTimeout = file.decompiler.analysisTimeout
  modelFrame : settings.model.maxTokens = file.model.maxTokens ∧
    settings.model.timeoutSeconds = file.model.timeoutSeconds ∧
    settings.model.parseRetries = file.model.parseRetries

/-- Why there are no settings: the file cannot be loaded, or else there are to be no workers, or
else the command has no word. -/
inductive Refused (tree : FileTree) (path : Option Path) (overrides : Overrides) :
    ResolveError → Prop
  | load {file : Path} {cause : LoadError} (hpath : path = some file)
      (hload : load tree file = .error cause) : Refused tree path overrides (.load cause)
  | noJobs {file : Settings} (hbase : Base tree path file) (hjobs : overrides.jobs = some 0) :
      Refused tree path overrides .noJobs
  | noCommand {file : Settings} {command : String} (hbase : Base tree path file)
      (hjobs : overrides.jobs ≠ some 0) (hcommand : overrides.modelCommand = some command)
      (hblank : Text.Blank command.toList) : Refused tree path overrides .noCommand

variable {tree : FileTree} {lookup : String → Option String} {path : Option Path}
  {overrides : Overrides} {file settings : Settings}

theorem loadOrDefault_eq_ok_iff : loadOrDefault tree path = .ok file ↔ Base tree path file := by
  cases path with
  | none =>
    rw [loadOrDefault, Except.ok.injEq]
    exact ⟨fun h => h ▸ .defaults, fun h => by cases h; rfl⟩
  | some path =>
    rw [loadOrDefault]
    refine ⟨fun h => .loaded ?_, fun h => ?_⟩
    · cases hload : load tree path with
      | error cause =>
        rw [hload] at h
        cases h
      | ok settings =>
        rw [hload] at h
        rw [Except.ok.inj h]
    · cases h with
      | loaded h =>
        rw [h]
        rfl

theorem loadOrDefault_eq_error_iff {error : ResolveError} :
    loadOrDefault tree path = .error error ↔
      ∃ file cause, path = some file ∧ load tree file = .error cause ∧ error = .load cause := by
  cases path with
  | none => simp [loadOrDefault]
  | some path =>
    rw [loadOrDefault]
    cases hload : load tree path <;> simp [hload, Except.mapError, eq_comm]

/-! ## Layered settings -/

/-- **Every field is settled.** -/
theorem Layered.unique {other : Settings} (h : Layered lookup overrides file settings)
    (h' : Layered lookup overrides file other) : settings = other := by
  -- a command has its words in one way only
  have hcommand : settings.model.backend = other.model.backend ∧
      settings.model.command = other.model.command := by
    cases hcommand : overrides.modelCommand with
    | none =>
      obtain ⟨hbackend, hwords⟩ := h.uncommanded hcommand
      obtain ⟨hbackend', hwords'⟩ := h'.uncommanded hcommand
      exact ⟨hbackend.trans hbackend'.symm, hwords.trans hwords'.symm⟩
    | some command =>
      obtain ⟨hbackend, hwords⟩ := h.commanded command hcommand
      obtain ⟨hbackend', hwords'⟩ := h'.commanded command hcommand
      exact ⟨hbackend.trans hbackend'.symm, List.map_injective_iff.mpr
        (fun _ _ => String.toList_injective) (hwords.words_eq.symm.trans hwords'.words_eq)⟩
  have hheadless := Option.ext fun path => (h.headlessPath path).trans (h'.headlessPath path).symm
  have hjobs := Option.ext fun n => (h.jobs n).trans (h'.jobs n).symm
  have hkey : settings.model.apiKey = other.model.apiKey := by
    obtain ⟨given?, hgiven, hkey⟩ := h.apiKey
    obtain ⟨other?, hother, hkey'⟩ := h'.apiKey
    obtain rfl := hgiven.unique hother
    exact Option.ext fun key => (hkey key).trans (hkey' key).symm
  have hmodel := h.model.unique h'.model
  have hendpoint : settings.model.endpoint = other.model.endpoint := by
    obtain ⟨given?, hgiven, hendpoint⟩ := h.endpoint
    obtain ⟨other?, hother, hendpoint'⟩ := h'.endpoint
    obtain rfl := hgiven.unique hother
    exact hendpoint.unique hendpoint'
  obtain ⟨htimeout, hanalysis⟩ := h.decompilerFrame
  obtain ⟨htimeout', hanalysis'⟩ := h'.decompilerFrame
  obtain ⟨htokens, hlimit, hretries⟩ := h.modelFrame
  obtain ⟨htokens', hlimit', hretries'⟩ := h'.modelFrame
  obtain ⟨⟨_, _, _, _⟩, ⟨_, _, _, _, _, _, _, _⟩⟩ := settings
  obtain ⟨⟨_, _, _, _⟩, ⟨_, _, _, _, _, _, _, _⟩⟩ := other
  simp_all

/-- The file with the environment and the flags laid over it, and a backend with a command. -/
def laid (lookup : String → Option String) (overrides : Overrides) (file : Settings)
    (backend : BackendKind) (command : List String) : Settings where
  decompiler := { file.decompiler with
    headlessPath := overrides.headless.or file.decompiler.headlessPath
    jobs := overrides.jobs.or file.decompiler.jobs }
  model := { file.model with
    backend, command
    endpoint := overrides.endpoint.getD
      ((nonEmpty? lookup endpointVariable).getD file.model.endpoint)
    model := overrides.model.getD file.model.model
    apiKey := file.model.apiKey.or (nonEmpty? lookup apiKeyVariable) }

theorem layered_laid {backend : BackendKind} {command : List String}
    (hcommanded : ∀ given ∈ overrides.modelCommand, backend = .command ∧
      Text.Worded given.toList (command.map String.toList))
    (huncommanded : overrides.modelCommand = none →
      backend = file.model.backend ∧ command = file.model.command) :
    Layered lookup overrides file (laid lookup overrides file backend command) where
  headlessPath := fun _ => Prevails.or_iff.symm
  jobs := fun _ => Prevails.or_iff.symm
  model := (Prevails.here _ []).getD
  endpoint := ⟨_, gives_nonEmpty? lookup endpointVariable, (Prevails.here _ []).getD.getD⟩
  apiKey := ⟨_, gives_nonEmpty? lookup apiKeyVariable, fun _ => Prevails.or_iff.symm⟩
  commanded := hcommanded
  uncommanded := huncommanded
  decompilerFrame := ⟨rfl, rfl⟩
  modelFrame := ⟨rfl, rfl, rfl⟩

theorem override_eq : override overrides (applyEnvironment lookup file) =
    if overrides.jobs = some 0 then .error .noJobs
    else match overrides.modelCommand with
      | none => .ok (laid lookup overrides file file.model.backend file.model.command)
      | some command =>
        match commandWords command with
        | [] => .error .noCommand
        | words => .ok (laid lookup overrides file .command words) := rfl

theorem worded_commandWords (command : String) :
    Text.Worded command.toList ((commandWords command).map String.toList) := by
  rw [commandWords, List.map_map]
  simpa [Function.comp_def] using Text.words_eq_iff.mp rfl

theorem commandWords_eq_nil_iff {command : String} :
    commandWords command = [] ↔ Text.Blank command.toList := by
  rw [commandWords, List.map_eq_nil_iff, Text.words_eq_nil_iff]

/-- **The flags over the environment over the file make layered settings**, unless they ask for no
workers or for a command without a word. -/
theorem exists_override (lookup : String → Option String) (file : Settings)
    (hjobs : overrides.jobs ≠ some 0)
    (hcommand : ∀ command ∈ overrides.modelCommand, ¬ Text.Blank command.toList) :
    ∃ settings, override overrides (applyEnvironment lookup file) = .ok settings ∧
      Layered lookup overrides file settings := by
  rw [override_eq, if_neg hjobs]
  cases hgiven : overrides.modelCommand with
  | none =>
    refine ⟨_, rfl, layered_laid ?_ fun _ => ⟨rfl, rfl⟩⟩
    rw [hgiven]
    exact fun _ h => nomatch h
  | some command =>
    have hne := mt commandWords_eq_nil_iff.mp (hcommand command hgiven)
    obtain ⟨word, words, hwords⟩ := List.exists_cons_of_ne_nil hne
    simp only [hwords]
    refine ⟨_, rfl, layered_laid ?_ ?_⟩
    · rw [hgiven, ← hwords]
      rintro given ⟨⟩
      exact ⟨rfl, worded_commandWords command⟩
    · rw [hgiven]
      exact fun h => nomatch h

theorem override_eq_error (hjobs : overrides.jobs ≠ some 0) {command : String}
    (hcommand : overrides.modelCommand = some command) (hblank : Text.Blank command.toList) :
    override overrides (applyEnvironment lookup file) = .error .noCommand := by
  rw [override_eq, if_neg hjobs, hcommand]
  simp only [commandWords_eq_nil_iff.mpr hblank]

/-! ## Settings of a run -/

theorem Layered.backend?_eq [Libraries] (h : Layered lookup overrides file settings)
    {command : String} (hcommand : overrides.modelCommand = some command)
    (hne : ¬ Text.Blank command.toList) :
    ∃ program arguments, settings.model.command = program :: arguments ∧
      ¬ Text.Blank program.toList ∧
      ∀ (ω : Type) (launcher : External.Launcher ω) (transport : Scoring.Chat.Transport ω),
        Scoring.backend? settings.model launcher transport =
          .ok (Scoring.Command.backend launcher program arguments settings.model.timeout?) := by
  obtain ⟨hbackend, hwords⟩ := h.commanded command hcommand
  cases hprogram : settings.model.command with
  | nil =>
    rw [hprogram] at hwords
    exact absurd (Text.words_eq_nil_iff.mp hwords.words_eq) hne
  | cons program arguments =>
    refine ⟨program, arguments, rfl, ?_, fun ω launcher transport => ?_⟩
    · rw [hprogram, List.map_cons] at hwords
      exact hwords.not_blank List.mem_cons_self
    · rw [Scoring.backend?, hbackend]
      simp only [Scoring.Command.backend?, hprogram]

theorem resolve_eq (hbase : Base tree path file) :
    resolve tree lookup path overrides = override overrides (applyEnvironment lookup file) := by
  rw [resolve, loadOrDefault_eq_ok_iff.mpr hbase]

/-- A run is refused settings or gets layered ones. -/
theorem refused_or_layered (tree : FileTree) (lookup : String → Option String)
    (path : Option Path) (overrides : Overrides) :
    (∃ error, resolve tree lookup path overrides = .error error ∧
      Refused tree path overrides error) ∨
    ∃ file settings, resolve tree lookup path overrides = .ok settings ∧ Base tree path file ∧
      overrides.jobs ≠ some 0 ∧
      (∀ command ∈ overrides.modelCommand, ¬ Text.Blank command.toList) ∧
      Layered lookup overrides file settings := by
  cases hload : loadOrDefault tree path with
  | error error =>
    obtain ⟨file, cause, hpath, hfile, rfl⟩ := loadOrDefault_eq_error_iff.mp hload
    exact .inl ⟨_, by rw [resolve, hload], .load hpath hfile⟩
  | ok file =>
    have hbase := loadOrDefault_eq_ok_iff.mp hload
    rw [resolve_eq hbase]
    by_cases hjobs : overrides.jobs = some 0
    · exact .inl ⟨_, by rw [override_eq, if_pos hjobs], .noJobs hbase hjobs⟩
    · by_cases hcommand : ∀ command ∈ overrides.modelCommand, ¬ Text.Blank command.toList
      · obtain ⟨settings, hsettings, hlayered⟩ := exists_override lookup file hjobs hcommand
        exact .inr ⟨file, settings, hsettings, hbase, hjobs, hcommand, hlayered⟩
      · push Not at hcommand
        obtain ⟨command, hgiven, hblank⟩ := hcommand
        exact .inl ⟨_, override_eq_error hjobs hgiven hblank,
          .noCommand hbase hjobs hgiven hblank⟩

theorem Refused.resolve_eq {error : ResolveError} (h : Refused tree path overrides error) :
    resolve tree lookup path overrides = .error error := by
  cases h with
  | load hpath hload =>
    rw [resolve, loadOrDefault_eq_error_iff.mpr ⟨_, _, hpath, hload, rfl⟩]
  | noJobs hbase hjobs => rw [Settings.resolve_eq hbase, override_eq, if_pos hjobs]
  | noCommand hbase hjobs hcommand hblank =>
    rw [Settings.resolve_eq hbase, override_eq_error hjobs hcommand hblank]

/-- **The settings of a run**: there are none exactly for the reasons named, and otherwise they are
layered. Those with a command on the flags have a backend that starts its first word. -/
theorem resolve_layers [Libraries] (tree : FileTree) (lookup : String → Option String)
    (path : Option Path) (overrides : Overrides) :
    (∀ error, resolve tree lookup path overrides = .error error ↔
      Refused tree path overrides error) ∧
    (∀ settings, resolve tree lookup path overrides = .ok settings ↔
      ∃ file, Base tree path file ∧ overrides.jobs ≠ some 0 ∧
        (∀ command ∈ overrides.modelCommand, ¬ Text.Blank command.toList) ∧
        Layered lookup overrides file settings) ∧
    ∀ settings command, resolve tree lookup path overrides = .ok settings →
      overrides.modelCommand = some command →
      ∃ program arguments, settings.model.command = program :: arguments ∧
        ¬ Text.Blank program.toList ∧
        ∀ (ω : Type) (launcher : External.Launcher ω) (transport : Scoring.Chat.Transport ω),
          Scoring.backend? settings.model launcher transport =
            .ok (Scoring.Command.backend launcher program arguments settings.model.timeout?) := by
  have hlayered : ∀ settings, resolve tree lookup path overrides = .ok settings →
      ∃ file, Base tree path file ∧ overrides.jobs ≠ some 0 ∧
        (∀ command ∈ overrides.modelCommand, ¬ Text.Blank command.toList) ∧
        Layered lookup overrides file settings := by
    intro settings h
    obtain ⟨error, herror, -⟩ | ⟨file, other, hother, hfile⟩ :=
      refused_or_layered tree lookup path overrides
    · cases herror.symm.trans h
    · obtain rfl := Except.ok.inj (hother.symm.trans h)
      exact ⟨file, hfile⟩
  refine ⟨fun error => ⟨fun h => ?_, Refused.resolve_eq⟩, fun settings => ⟨hlayered settings, ?_⟩,
    fun settings command h hcommand => ?_⟩
  · obtain ⟨other, hother, hrefused⟩ | ⟨file, settings, hsettings, -⟩ :=
      refused_or_layered tree lookup path overrides
    · exact Except.error.inj (hother.symm.trans h) ▸ hrefused
    · cases hsettings.symm.trans h
  · rintro ⟨file, hbase, hjobs, hcommand, h⟩
    obtain ⟨other, hother, h'⟩ := exists_override lookup file hjobs hcommand
    rw [resolve_eq hbase, hother, h.unique h']
  · obtain ⟨file, -, -, hne, hlayered⟩ := hlayered settings h
    exact hlayered.backend?_eq hcommand (hne command hcommand)

/-- An environment with an address and a key. -/
def addressAndKey : String → Option String
  | "MONOCLE_ENDPOINT" => some "http://model"
  | "MONOCLE_API_KEY" => some "secret"
  | _ => none

/-- The address and the key of the environment over the defaults, and a command over them. -/
theorem resolve_layers_environment :
    addressAndKey "MONOCLE_ENDPOINT" = some "http://model" ∧
    addressAndKey "MONOCLE_API_KEY" = some "secret" ∧
    ∃ settings,
      resolve ⟨[], []⟩ addressAndKey none { modelCommand := some "run  it" } = .ok settings ∧
      settings.model.endpoint = "http://model" ∧ settings.model.apiKey = some "secret" ∧
      settings.model.command ≠ [] := by
  obtain ⟨-, hok, hcommand⟩ :=
    resolve_layers ⟨[], []⟩ addressAndKey none { modelCommand := some "run  it" }
  obtain ⟨settings, hsettings⟩ : ∃ settings,
      resolve ⟨[], []⟩ addressAndKey none { modelCommand := some "run  it" } = .ok settings :=
    ⟨_, rfl⟩
  obtain ⟨file, hbase, -, -, hlayered⟩ := (hok settings).mp hsettings
  cases hbase
  refine ⟨rfl, rfl, settings, hsettings, ?_, ?_, ?_⟩
  · obtain ⟨given?, hgiven, hendpoint⟩ := hlayered.endpoint
    obtain rfl : given? = some "http://model" := (hgiven _).mpr ⟨rfl, by decide⟩
    cases hendpoint with
    | later h => exact h.unique (.here _ _)
  · obtain ⟨given?, hgiven, hkey⟩ := hlayered.apiKey
    obtain rfl : given? = some "secret" := (hgiven _).mpr ⟨rfl, by decide⟩
    exact (hkey "secret").mpr (.later (.here _ _))
  · obtain ⟨program, arguments, hprogram, -⟩ := hcommand settings _ hsettings rfl
    rw [hprogram]
    exact List.cons_ne_nil _ _

end FunctionSearch.Settings
