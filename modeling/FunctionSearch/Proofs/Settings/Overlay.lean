import FunctionSearch.Proofs.Document.Record
import FunctionSearch.Proofs.Json.Spelling
import FunctionSearch.Proofs.Text.Utf8
import FunctionSearch.Settings.Load

/-!
# Settings from documents with some of their fields

A settings file may hold any of the fields, and the defaults stand for the others.

* `Leaf`: the fields, which are those of two sections. `Settings.written?` is what is written of
  one.
* `Settings.Holds`: the documents that hold the chosen fields of settings and nothing else, in any
  order, with sections in any order.
* `Settings.overlay`: the settings on the chosen fields and the defaults elsewhere.
* `load_overlay`: what is loaded from a file that spells such a document.
-/

namespace FunctionSearch.Settings

open Document

/-! ## Fields -/

/-- The fields of settings. -/
inductive Leaf where
  | headlessPath
  | jobs
  | decompilerTimeout
  | analysisTimeout
  | backend
  | endpoint
  | model
  | apiKey
  | command
  | maxTokens
  | modelTimeout
  | parseRetries
  deriving DecidableEq, Repr

namespace Leaf

/-- The name of a field in its section. -/
def name : Leaf → String
  | headlessPath => "headless_path"
  | jobs => "jobs"
  | decompilerTimeout => "timeout_secs"
  | analysisTimeout => "analysis_timeout_per_file"
  | backend => "backend"
  | endpoint => "endpoint"
  | model => "model"
  | apiKey => "api_key"
  | command => "command"
  | maxTokens => "max_tokens"
  | modelTimeout => "timeout_secs"
  | parseRetries => "parse_retries"

/-- The fields of the first section. -/
def ofDecompiler : List Leaf :=
  [headlessPath, jobs, decompilerTimeout, analysisTimeout]

/-- The fields of the second section. -/
def ofModel : List Leaf :=
  [backend, endpoint, model, apiKey, command, maxTokens, modelTimeout, parseRetries]

end Leaf

/-- What is written of a field: nothing of an option that is not set and of a command without
words. -/
def written? (settings : Settings) : Leaf → Option Json
  | .headlessPath => (settings.decompiler.headlessPath.bind Path.text?).map .text
  | .jobs => settings.decompiler.jobs.map .natural
  | .decompilerTimeout => some (.natural settings.decompiler.timeoutSeconds)
  | .analysisTimeout => settings.decompiler.analysisTimeout.map .natural
  | .backend => some (.text settings.model.backend.word)
  | .endpoint => some (.text settings.model.endpoint)
  | .model => some (.text settings.model.model)
  | .apiKey => settings.model.apiKey.map .text
  | .command =>
    if settings.model.command.isEmpty then none
    else some (.array (settings.model.command.map .text))
  | .maxTokens => some (.natural settings.model.maxTokens)
  | .modelTimeout => some (.natural settings.model.timeoutSeconds)
  | .parseRetries => some (.natural settings.model.parseRetries)

/-- What is written of a field if it is chosen. -/
def chosen? (settings : Settings) (chosen : Leaf → Bool) (leaf : Leaf) : Option Json :=
  if chosen leaf then settings.written? leaf else none

/-- The chosen fields of a section, those of which something is written. -/
def fields (settings : Settings) (chosen : Leaf → Bool) (leaves : List Leaf) :
    List (String × Json) :=
  present Leaf.name (settings.chosen? chosen) leaves

/-- A section with these fields in any order. A section without fields may be left out. -/
inductive Section (fields : List (String × Json)) : Option Json → Prop
  | stated {members : List (String × Json)} (h : members.Perm fields) :
    Section fields (some (.record members))
  | omitted (h : fields = []) : Section fields none

/-- The documents that hold the chosen fields of settings and nothing else, with the sections in
either order. -/
def Holds (settings : Settings) (chosen : Leaf → Bool) (document : Json) : Prop :=
  ∃ decompiler model sections,
    Section (settings.fields chosen Leaf.ofDecompiler) decompiler ∧
    Section (settings.fields chosen Leaf.ofModel) model ∧
    sections.Perm (present Prod.fst Prod.snd [("decompiler", decompiler), ("model", model)]) ∧
    document = .record sections

/-- What settings say of a field if it is chosen, and what the defaults say if it is not. -/
def pick {α : Type} (settings : Settings) (chosen : Leaf → Bool) (leaf : Leaf)
    (value : Settings → α) : α :=
  if chosen leaf then value settings else value {}

/-- The settings on the chosen fields and the defaults elsewhere. -/
def overlay (settings : Settings) (chosen : Leaf → Bool) : Settings where
  decompiler := {
    headlessPath := settings.pick chosen .headlessPath (·.decompiler.headlessPath)
    jobs := settings.pick chosen .jobs (·.decompiler.jobs)
    timeoutSeconds := settings.pick chosen .decompilerTimeout (·.decompiler.timeoutSeconds)
    analysisTimeout := settings.pick chosen .analysisTimeout (·.decompiler.analysisTimeout) }
  model := {
    backend := settings.pick chosen .backend (·.model.backend)
    endpoint := settings.pick chosen .endpoint (·.model.endpoint)
    model := settings.pick chosen .model (·.model.model)
    apiKey := settings.pick chosen .apiKey (·.model.apiKey)
    command := settings.pick chosen .command (·.model.command)
    maxTokens := settings.pick chosen .maxTokens (·.model.maxTokens)
    timeoutSeconds := settings.pick chosen .modelTimeout (·.model.timeoutSeconds)
    parseRetries := settings.pick chosen .parseRetries (·.model.parseRetries) }

/-- The settings that can be written: paths are texts, and numbers are below the bounds of their
fields. -/
structure Fits (settings : Settings) : Prop where
  headlessPath : ∀ path ∈ settings.decompiler.headlessPath, path.text?.isSome
  jobs : ∀ n ∈ settings.decompiler.jobs, n < bound64
  decompilerTimeout : settings.decompiler.timeoutSeconds < bound64
  analysisTimeout : ∀ n ∈ settings.decompiler.analysisTimeout, n < bound64
  maxTokens : settings.model.maxTokens < bound32
  modelTimeout : settings.model.timeoutSeconds < bound64
  parseRetries : settings.model.parseRetries < bound32

/-! ## Sections -/

/-- A field that is read back from what is written of it is read as what is picked. -/
theorem withDefault_chosen? {α : Type} {read : Json → Option α} (settings : Settings)
    (chosen : Leaf → Bool) (leaf : Leaf) (value : Settings → α)
    (h : withDefault (value {}) read (settings.written? leaf) = some (value settings)) :
    withDefault (value {}) read (settings.chosen? chosen leaf) =
      some (settings.pick chosen leaf value) :=
  withDefault_ite h (chosen leaf)

theorem withDefault_texts (value? : Option String) :
    withDefault none (optional text?) (value?.map Json.text) = some value? :=
  withDefault_optional fun s _ => ⟨unset?_text s, text?_text s⟩

theorem withDefault_naturals {bound : Nat} {value? : Option Nat} (h : ∀ n ∈ value?, n < bound) :
    withDefault none (optional (naturalBelow? bound)) (value?.map Json.natural) = some value? :=
  withDefault_optional fun n hn => ⟨unset?_natural n, naturalBelow?_natural (h n hn)⟩

theorem map_ofString_text? {path? : Option Path} (h : ∀ path ∈ path?, path.text?.isSome) :
    (path?.bind Path.text?).map Path.ofString = path? := by
  cases path? with
  | none => rfl
  | some path =>
    obtain ⟨text, htext⟩ := Option.isSome_iff_exists.mp (h path rfl)
    have hpath : Path.ofString text = path :=
      (congrArg Path.mk (Text.strict?_eq_some_iff.mp htext)).symm
    rw [Option.bind_some, htext, Option.map_some, hpath]

theorem backend_ofDocument? (backend : BackendKind) :
    BackendKind.ofDocument? (Json.text backend.word) = some backend := by
  cases backend <;> rfl

theorem withDefault_command (words : List String) :
    withDefault [] texts?
        (if words.isEmpty then none else some (Json.array (words.map Json.text))) =
      some words := by
  cases words with
  | nil => rfl
  | cons word words => exact texts?_array (word :: words)

variable {settings : Settings}

theorem decompiler_ofDocument? (h : settings.Fits) (chosen : Leaf → Bool)
    {members : List (String × Json)}
    (hmembers : members.Perm (settings.fields chosen Leaf.ofDecompiler)) :
    DecompilerSettings.ofDocument? (Json.record members) =
      some (settings.overlay chosen).decompiler := by
  have hcolumns : columns? ["headless_path", "jobs", "timeout_secs", "analysis_timeout_per_file"]
      (.named members) = some (Leaf.ofDecompiler.map (settings.chosen? chosen)) :=
    columns?_named (by decide : (Leaf.ofDecompiler.map Leaf.name).Nodup) hmembers
  have hheadless := settings.withDefault_chosen? chosen .headlessPath
    (·.decompiler.headlessPath.bind Path.text?) (withDefault_texts _)
  have hjobs := settings.withDefault_chosen? chosen .jobs (·.decompiler.jobs)
    (withDefault_naturals h.jobs)
  have htimeout := settings.withDefault_chosen? chosen .decompilerTimeout
    (·.decompiler.timeoutSeconds) (withDefault_some (naturalBelow?_natural h.decompilerTimeout))
  have hanalysis := settings.withDefault_chosen? chosen .analysisTimeout
    (·.decompiler.analysisTimeout) (withDefault_naturals h.analysisTimeout)
  have hpath : (settings.pick chosen .headlessPath (·.decompiler.headlessPath.bind Path.text?)).map
      Path.ofString = settings.pick chosen .headlessPath (·.decompiler.headlessPath) := by
    rw [pick, pick]
    split
    · exact map_ofString_text? h.headlessPath
    · rfl
  rw [DecompilerSettings.ofDocument?, layout?_record]
  simp only [Option.bind_eq_bind, Option.bind_some, hcolumns, Leaf.ofDecompiler, List.map_cons,
    List.map_nil]
  refine Option.bind_eq_some_iff.mpr ⟨_, hheadless, ?_⟩
  refine Option.bind_eq_some_iff.mpr ⟨_, hjobs, ?_⟩
  refine Option.bind_eq_some_iff.mpr ⟨_, htimeout, ?_⟩
  refine Option.bind_eq_some_iff.mpr ⟨_, hanalysis, ?_⟩
  rw [hpath]
  rfl

theorem model_ofDocument? (h : settings.Fits) (chosen : Leaf → Bool)
    {members : List (String × Json)}
    (hmembers : members.Perm (settings.fields chosen Leaf.ofModel)) :
    ModelSettings.ofDocument? (Json.record members) = some (settings.overlay chosen).model := by
  have hcolumns : columns? ["backend", "endpoint", "model", "api_key", "command", "max_tokens",
      "timeout_secs", "parse_retries"] (.named members) =
        some (Leaf.ofModel.map (settings.chosen? chosen)) :=
    columns?_named (by decide : (Leaf.ofModel.map Leaf.name).Nodup) hmembers
  have hbackend := settings.withDefault_chosen? chosen .backend (·.model.backend)
    (withDefault_some (backend_ofDocument? _))
  have hendpoint := settings.withDefault_chosen? chosen .endpoint (·.model.endpoint)
    (withDefault_some (text?_text _))
  have hmodel := settings.withDefault_chosen? chosen .model (·.model.model)
    (withDefault_some (text?_text _))
  have hkey := settings.withDefault_chosen? chosen .apiKey (·.model.apiKey) (withDefault_texts _)
  have hcommand := settings.withDefault_chosen? chosen .command (·.model.command)
    (withDefault_command _)
  have hmaxTokens := settings.withDefault_chosen? chosen .maxTokens (·.model.maxTokens)
    (withDefault_some (naturalBelow?_natural h.maxTokens))
  have htimeout := settings.withDefault_chosen? chosen .modelTimeout (·.model.timeoutSeconds)
    (withDefault_some (naturalBelow?_natural h.modelTimeout))
  have hretries := settings.withDefault_chosen? chosen .parseRetries (·.model.parseRetries)
    (withDefault_some (naturalBelow?_natural h.parseRetries))
  rw [ModelSettings.ofDocument?, layout?_record]
  simp only [Option.bind_eq_bind, Option.bind_some, hcolumns, Leaf.ofModel, List.map_cons,
    List.map_nil]
  refine Option.bind_eq_some_iff.mpr ⟨_, hbackend, ?_⟩
  refine Option.bind_eq_some_iff.mpr ⟨_, hendpoint, ?_⟩
  refine Option.bind_eq_some_iff.mpr ⟨_, hmodel, ?_⟩
  refine Option.bind_eq_some_iff.mpr ⟨_, hkey, ?_⟩
  refine Option.bind_eq_some_iff.mpr ⟨_, hcommand, ?_⟩
  refine Option.bind_eq_some_iff.mpr ⟨_, hmaxTokens, ?_⟩
  refine Option.bind_eq_some_iff.mpr ⟨_, htimeout, ?_⟩
  exact Option.bind_eq_some_iff.mpr ⟨_, hretries, rfl⟩

/-! ## Documents -/

/-- A section is read as its fields say, also when it is left out and there is nothing to say. -/
theorem Section.withDefault {α : Type} {fields : List (String × Json)} {stated : Option Json}
    (hstated : Section fields stated) {read : Json → Option α} {fallback value : α}
    (hread : ∀ members : List (String × Json), members.Perm fields →
      read (.record members) = some value)
    (hfallback : read (.record []) = some fallback) :
    Document.withDefault fallback read stated = some value := by
  cases hstated with
  | stated hmembers => exact withDefault_some (hread _ hmembers)
  | omitted hnone =>
    have hvalue := hread [] (hnone ▸ List.Perm.refl [])
    rw [hfallback] at hvalue
    exact hvalue

/-- **A document with the chosen fields is read as the settings on them and as the defaults
elsewhere.** -/
theorem Holds.ofDocument? {chosen : Leaf → Bool} {document : Json}
    (hdocument : settings.Holds chosen document) (h : settings.Fits) :
    Settings.ofDocument? document = some (settings.overlay chosen) := by
  obtain ⟨stated, stated', sections, hstated, hstated', hsections, rfl⟩ := hdocument
  have hcolumns : columns? ["decompiler", "model"] (.named sections) = some [stated, stated'] :=
    columns?_named (by simp : ([("decompiler", stated), ("model", stated')].map Prod.fst).Nodup)
      hsections
  have hdecompiler : Document.withDefault {} DecompilerSettings.ofDocument? stated =
      some (settings.overlay chosen).decompiler :=
    hstated.withDefault (fun _ => decompiler_ofDocument? h chosen) rfl
  have hmodel : Document.withDefault {} ModelSettings.ofDocument? stated' =
      some (settings.overlay chosen).model :=
    hstated'.withDefault (fun _ => model_ofDocument? h chosen) rfl
  rw [Settings.ofDocument?, layout?_record]
  simp only [Option.bind_eq_bind, Option.bind_some, hcolumns, hdecompiler, hmodel]
  rfl

theorem plain_texts (texts : List String) : (Json.array (texts.map Json.text)).Plain := by
  refine .array fun item hitem => ?_
  obtain ⟨text, -, rfl⟩ := List.mem_map.mp hitem
  exact .text text

theorem plain_of_map {α : Type} {f : α → Json} {value? : Option α} {json : Json}
    (hf : ∀ value, (f value).Plain) (h : value?.map f = some json) : json.Plain := by
  obtain ⟨value, -, rfl⟩ := Option.map_eq_some_iff.mp h
  exact hf value

theorem plain_of_written? {leaf : Leaf} {json : Json} (h : settings.written? leaf = some json) :
    json.Plain := by
  cases leaf with
  | headlessPath | apiKey => exact plain_of_map .text h
  | jobs | analysisTimeout => exact plain_of_map .natural h
  | backend | endpoint | model => exact Option.some_inj.mp h ▸ .text _
  | decompilerTimeout | maxTokens | modelTimeout | parseRetries =>
    exact Option.some_inj.mp h ▸ .natural _
  | command =>
    rw [written?] at h
    split at h
    · cases h
    · exact Option.some_inj.mp h ▸ plain_texts _

theorem plain_of_perm {chosen : Leaf → Bool} {leaves : List Leaf} {members : List (String × Json)}
    (h : members.Perm (settings.fields chosen leaves)) : (Json.record members).Plain := by
  refine .record fun member hmember => ?_
  obtain ⟨leaf, -, hvalue, -⟩ := mem_present_iff.mp (h.mem_iff.mp hmember)
  rw [chosen?] at hvalue
  split at hvalue
  · exact plain_of_written? hvalue
  · cases hvalue

theorem Holds.plain {chosen : Leaf → Bool} {document : Json}
    (h : settings.Holds chosen document) : document.Plain := by
  obtain ⟨decompiler, model, sections, hdecompiler, hmodel, hsections, rfl⟩ := h
  refine .record fun member hmember => ?_
  obtain ⟨column, hcolumn, hvalue, -⟩ := mem_present_iff.mp (hsections.mem_iff.mp hmember)
  rcases List.mem_cons.mp hcolumn with rfl | hcolumn
  · cases hdecompiler with
    | stated hmembers => exact Option.some_inj.mp hvalue ▸ plain_of_perm hmembers
    | omitted => cases hvalue
  · rw [List.mem_singleton.mp hcolumn] at hvalue
    cases hmodel with
    | stated hmembers => exact Option.some_inj.mp hvalue ▸ plain_of_perm hmembers
    | omitted => cases hvalue

@[simp] theorem overlay_true (settings : Settings) :
    settings.overlay (fun _ => true) = settings := rfl

theorem fieldIfSome_eq {α : Type} (name : String) (f : α → Json) (value? : Option α) :
    fieldIfSome name f value? = ((value?.map f).map (name, ·)).toList := by
  cases value? <;> rfl

theorem decompiler_toJson? (h : settings.Fits) : settings.decompiler.toJson? =
    some (.record (settings.fields (fun _ => true) Leaf.ofDecompiler)) := by
  have hfields : settings.fields (fun _ => true) Leaf.ofDecompiler =
      fieldIfSome "headless_path" .text (settings.decompiler.headlessPath.bind Path.text?) ++
        fieldIfSome "jobs" .natural settings.decompiler.jobs ++
        [("timeout_secs", .natural settings.decompiler.timeoutSeconds)] ++
        fieldIfSome "analysis_timeout_per_file" .natural settings.decompiler.analysisTimeout := by
    simp [fields, fieldIfSome_eq, Leaf.ofDecompiler, present_nil, present_cons, chosen?, written?,
      Leaf.name]
  rw [hfields, DecompilerSettings.toJson?]
  cases hpath : settings.decompiler.headlessPath with
  | none => rfl
  | some path =>
    obtain ⟨text, htext⟩ := Option.isSome_iff_exists.mp (h.headlessPath path hpath)
    simp only [Option.bind_some, htext, Option.map_some]
    rfl

theorem model_toJson (settings : Settings) : settings.model.toJson =
    .record (settings.fields (fun _ => true) Leaf.ofModel) := by
  rw [ModelSettings.toJson]
  split
  · next hcommand =>
    simp [fields, fieldIfSome_eq, Leaf.ofModel, present_nil, present_cons, chosen?, written?,
      Leaf.name, hcommand]
  · next hcommand =>
    simp [fields, fieldIfSome_eq, Leaf.ofModel, present_nil, present_cons, chosen?, written?,
      Leaf.name, hcommand]

/-- The document with the chosen fields in the order in which they are declared. -/
theorem holds_fields (settings : Settings) (chosen : Leaf → Bool) :
    settings.Holds chosen (.record
      [("decompiler", .record (settings.fields chosen Leaf.ofDecompiler)),
        ("model", .record (settings.fields chosen Leaf.ofModel))]) :=
  ⟨_, _, _, .stated (.refl _), .stated (.refl _), .refl _, rfl⟩

/-- Settings are written as the document with all of their fields. -/
theorem exists_toJson? (h : settings.Fits) :
    ∃ document, settings.toJson? = some document ∧ settings.Holds (fun _ => true) document := by
  refine ⟨_, ?_, settings.holds_fields fun _ => true⟩
  rw [Settings.toJson?, decompiler_toJson? h, model_toJson]
  rfl

/-! ## Files -/

theorem load_of_document {tree : FileTree} {path : Path} {document : Json} {text : String}
    (hpath : extensionOf path = "json") (hread : tree.readText path = .ok text)
    (htext : document.SpelledBy text) :
    load tree path = (ofDocument? document).elim (.error .badJson) .ok := by
  rw [load, hread]
  simp only [parse, hpath, ofJson?, htext.parse?]
  rfl

/-- **Settings files overlay the defaults.** A file that spells a document with the chosen fields of
settings, in any order and with any white space and escapes, is loaded as the settings on the chosen
fields and the defaults elsewhere. The document that settings are written as is loaded as the
settings. -/
theorem load_overlay (settings : Settings) (h : settings.Fits) :
    (∀ (chosen : Leaf → Bool) (document : Json) (text : String) (tree : FileTree) (path : Path),
      settings.Holds chosen document → document.SpelledBy text →
      extensionOf path = "json" → tree.readText path = .ok text →
      load tree path = .ok (settings.overlay chosen)) ∧
    ∃ document, settings.toJson? = some document ∧
      ∀ (tree : FileTree) (path : Path), extensionOf path = "json" →
        tree.readText path = .ok document.render ∨ tree.readText path = .ok document.pretty →
        load tree path = .ok settings := by
  have hload : ∀ (chosen : Leaf → Bool) (document : Json) (text : String) (tree : FileTree)
      (path : Path), settings.Holds chosen document → document.SpelledBy text →
      extensionOf path = "json" → tree.readText path = .ok text →
      load tree path = .ok (settings.overlay chosen) := by
    intro chosen document text tree path hdocument htext hpath hread
    rw [load_of_document hpath hread htext, hdocument.ofDocument? h]
    rfl
  refine ⟨hload, ?_⟩
  obtain ⟨document, hwritten, hdocument⟩ := exists_toJson? h
  refine ⟨document, hwritten, fun tree path hpath hread => ?_⟩
  rw [← settings.overlay_true]
  rcases hread with hread | hread
  · exact hload _ document _ tree path hdocument hdocument.plain.spelledBy_render hpath hread
  · exact hload _ document _ tree path hdocument hdocument.plain.spelledBy_pretty hpath hread

/-- A tree with one settings file. -/
def holding (text : String) : FileTree :=
  ⟨[([Text.bytes "a.json"], .file (Text.bytes text) false)], []⟩

theorem readText_holding (text : String) :
    (holding text).readText (.ofString "/a.json") = .ok text := by
  have hread : (holding text).read (.ofString "/a.json") = .ok (Text.bytes text) := rfl
  have htext : Text.strict? (Text.bytes text) = some text := Text.strict?_eq_some_iff.mpr rfl
  rw [FileTree.readText, hread]
  simp only [bind, Except.bind, htext]
  rfl

/-- Settings with a command, a number of workers and a limit. -/
def threeSet : Settings where
  decompiler := { jobs := some 2, timeoutSeconds := 5 }
  model := { command := ["llm", "run"] }

/-- Two of their fields, with the sections the other way round. -/
def twoStated : Json :=
  .record [("model", .record [("command", .array [.text "llm", .text "run"])]),
    ("decompiler", .record [("jobs", .natural 2)])]

/-- Two fields loaded from a file, and all of them. -/
theorem load_overlay_two :
    load (holding twoStated.pretty) (.ofString "/a.json") =
        .ok { decompiler := { jobs := some 2 }, model := { command := ["llm", "run"] } } ∧
      ∃ document, threeSet.toJson? = some document ∧
        load (holding document.render) (.ofString "/a.json") = .ok threeSet := by
  have hfits : threeSet.Fits :=
    ⟨by simp [threeSet], by simp [threeSet, bound64], by decide +kernel, by simp [threeSet],
      by decide +kernel, by decide +kernel, by decide +kernel⟩
  have hholds : threeSet.Holds (fun leaf => leaf = .jobs || leaf = .command) twoStated :=
    ⟨some (.record [("jobs", .natural 2)]),
      some (.record [("command", .array [.text "llm", .text "run"])]), _,
      .stated (.of_eq rfl), .stated (.of_eq rfl), .swap _ _ _, rfl⟩
  obtain ⟨hload, document, hwritten, hdocument⟩ := load_overlay threeSet hfits
  refine ⟨hload _ twoStated _ _ _ hholds hholds.plain.spelledBy_pretty (by decide +kernel)
    (readText_holding _), document, hwritten, ?_⟩
  exact hdocument _ _ (by decide +kernel) (.inl (readText_holding _))

end FunctionSearch.Settings
