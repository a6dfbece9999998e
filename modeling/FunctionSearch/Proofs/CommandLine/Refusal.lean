import FunctionSearch.CommandLine.Command
import FunctionSearch.Proofs.CommandLine.Exit
import FunctionSearch.Proofs.Files.Scratch
import FunctionSearch.Proofs.Search.Refusal
import FunctionSearch.Proofs.Text.Blank

/-!
# Commands that are refused

A command checks what it is asked for in full before it makes a directory or starts any work.

* `FindRequest.Refused` and `DecompileRequest.Refused` say why a command may be refused, in the
  order of the checks; `prepare_eq_error_iff` says that there are no other reasons.
* `intact_of_refused`: a command or a search that is refused prints nothing, calls no program and no
  server, and leaves all files as they are.
-/

namespace FunctionSearch

/-- A failure that is found before any work starts. -/
inductive CommandError.IsRefusal : CommandError → Prop
  | blankDescription : IsRefusal .blankDescription
  | settings (error : Settings.ResolveError) : IsRefusal (.settings error)
  | analyzer (error : DecompileError) : IsRefusal (.analyzer error)
  | model (error : Scoring.InferenceError) : IsRefusal (.model error)

namespace CommandLine

variable {σ : Type} {services : Services σ} {tree : FileTree} {error : CommandError}

/-! ## Reasons -/

/-- Why settings select no decompiler. -/
inductive NoDecompiler (environment : Environment) (tree : FileTree) (config : Option Path)
    (overrides : Settings.Overrides) : CommandError → Prop
  | settings {cause : Settings.ResolveError}
    (hsettings : Settings.resolve tree environment config overrides = .error cause) :
    NoDecompiler environment tree config overrides (.settings cause)
  | analyzer {settings : Settings} {cause : DecompileError}
    (hsettings : Settings.resolve tree environment config overrides = .ok settings)
    (hlocate : Analyzer.locate tree environment settings.decompiler.headlessPath = .error cause) :
    NoDecompiler environment tree config overrides (.analyzer cause)

/-- Why a decompilation is refused. -/
def DecompileRequest.Refused (environment : Environment) (tree : FileTree)
    (request : DecompileRequest) : CommandError → Prop :=
  NoDecompiler environment tree request.config request.overrides

/-- Why settings select no model: a program is to be asked and none is named, or a server is to be
asked and there is no client. -/
inductive NoModel [Libraries] (settings : ModelSettings) : Scoring.InferenceError → Prop
  | nameless (hbackend : settings.backend = .command) (hcommand : settings.command = []) :
    NoModel settings (.config "model.command is empty")
  | clientless {fault : String} (hbackend : settings.backend = .http)
    (hfault : Libraries.clientFault settings.timeout? = some fault) :
    NoModel settings (.config s!"failed to build HTTP client: {fault}")

/-- Why a search is refused: its description is blank, there is no decompiler, or no model. -/
inductive FindRequest.Refused [Libraries] (environment : Environment) (tree : FileTree)
    (request : FindRequest) : CommandError → Prop
  | blank (hdescription : Text.Blank request.description.toList) :
    Refused environment tree request .blankDescription
  | decompiler {error : CommandError} (hdescription : ¬ Text.Blank request.description.toList)
    (h : NoDecompiler environment tree request.config request.overrides error) :
    Refused environment tree request error
  | model {settings : Settings} {program : Path} {cause : Scoring.InferenceError}
    (hdescription : ¬ Text.Blank request.description.toList)
    (hsettings : Settings.resolve tree environment request.config request.overrides = .ok settings)
    (hlocate : Analyzer.locate tree environment settings.decompiler.headlessPath = .ok program)
    (h : NoModel settings.model cause) : Refused environment tree request (.model cause)

/-- There is no backend exactly if the settings select no model. -/
theorem backend?_eq_error_iff [Libraries] {ω : Type} {settings : ModelSettings}
    {launcher : External.Launcher ω} {transport : Scoring.Chat.Transport ω}
    {cause : Scoring.InferenceError} :
    Scoring.backend? settings launcher transport = .error cause ↔ NoModel settings cause := by
  rw [Scoring.backend?]
  cases hbackend : settings.backend with
  | http =>
    rw [Scoring.Chat.backend?]
    cases hfault : Libraries.clientFault settings.timeout? with
    | none =>
      refine ⟨nofun, fun h => ?_⟩
      cases h with
      | nameless hcommand => cases hbackend.symm.trans hcommand
      | clientless _ hfault' => cases hfault.symm.trans hfault'
    | some fault =>
      refine ⟨fun h => ?_, fun h => ?_⟩
      · obtain rfl := Except.error.inj h
        exact .clientless hbackend hfault
      · cases h with
        | nameless hcommand => cases hbackend.symm.trans hcommand
        | clientless _ hfault' =>
          obtain rfl := Option.some.inj (hfault.symm.trans hfault')
          rfl
  | command =>
    rw [Scoring.Command.backend?]
    cases hcommand : settings.command with
    | nil =>
      refine ⟨fun h => ?_, fun h => ?_⟩
      · obtain rfl := Except.error.inj h
        exact .nameless hbackend hcommand
      · cases h with
        | nameless => rfl
        | clientless hhttp => cases hbackend.symm.trans hhttp
    | cons program arguments =>
      refine ⟨nofun, fun h => ?_⟩
      cases h with
      | nameless _ hnil => cases hcommand.symm.trans hnil
      | clientless hhttp => cases hbackend.symm.trans hhttp

theorem mapError_eq_error_iff {ε ε' α : Type} {x : Except ε α} {f : ε → ε'} {failure : ε'} :
    x.mapError f = .error failure ↔ ∃ cause, x = .error cause ∧ failure = f cause := by
  cases x <;> simp [Except.mapError, eq_comm]

theorem settingsOf_eq_error_iff {config : Option Path} {overrides : Settings.Overrides} :
    settingsOf services tree config overrides = .error error ↔
      ∃ cause, Settings.resolve tree services.environment config overrides = .error cause ∧
        error = .settings cause :=
  mapError_eq_error_iff

theorem settingsOf_eq_ok_iff {config : Option Path} {overrides : Settings.Overrides}
    {settings : Settings} :
    settingsOf services tree config overrides = .ok settings ↔
      Settings.resolve tree services.environment config overrides = .ok settings := by
  rw [settingsOf]
  cases Settings.resolve tree services.environment config overrides <;> simp [Except.mapError]

/-- There is no decompiler exactly if the analyzer is not found. -/
theorem decompilerOf_eq_error_iff {settings : Settings} :
    decompilerOf services tree settings = .error error ↔
      ∃ cause, Analyzer.locate tree services.environment settings.decompiler.headlessPath =
        .error cause ∧ error = .analyzer cause := by
  rw [decompilerOf, Headless.ofSettings]
  cases Analyzer.locate tree services.environment settings.decompiler.headlessPath with
  | error cause => simp [bind, Except.bind, eq_comm]
  | ok program => simp [bind, Except.bind, pure, Except.pure]

/-- A chain of two steps fails where the first one does, or else the second. -/
theorem bind_eq_error_iff {ε α β : Type} {first : Except ε α} {next : α → Except ε β}
    {failure : ε} :
    first >>= next = .error failure ↔
      first = .error failure ∨ ∃ value, first = .ok value ∧ next value = .error failure := by
  cases first <;> simp [bind, Except.bind]

/-- The settings select no decompiler for the reasons named and for no other. -/
theorem noDecompiler_iff {config : Option Path} {overrides : Settings.Overrides} :
    (settingsOf services tree config overrides >>= decompilerOf services tree) = .error error ↔
      NoDecompiler services.environment tree config overrides error := by
  simp only [bind_eq_error_iff, settingsOf_eq_error_iff, settingsOf_eq_ok_iff,
    decompilerOf_eq_error_iff]
  constructor
  · rintro (⟨cause, hsettings, rfl⟩ | ⟨settings, hsettings, cause, hlocate, rfl⟩)
    · exact .settings hsettings
    · exact .analyzer hsettings hlocate
  · rintro (hsettings | ⟨hsettings, hlocate⟩)
    · exact .inl ⟨_, hsettings, rfl⟩
    · exact .inr ⟨_, hsettings, _, hlocate, rfl⟩

theorem NoDecompiler.isRefusal {environment : Environment} {config : Option Path}
    {overrides : Settings.Overrides} (h : NoDecompiler environment tree config overrides error) :
    error.IsRefusal := by
  cases h with
  | settings => exact .settings _
  | analyzer => exact .analyzer _

/-- **A decompilation is refused for the reasons named and for no other.** -/
theorem DecompileRequest.prepare_eq_error_iff {request : DecompileRequest} :
    request.prepare services tree = .error error ↔
      request.Refused services.environment tree error :=
  noDecompiler_iff

/-- There is a decompiler exactly if the analyzer is found. -/
theorem exists_decompilerOf_iff {settings : Settings} :
    (∃ decompiler, decompilerOf services tree settings = .ok decompiler) ↔
      ∃ program, Analyzer.locate tree services.environment settings.decompiler.headlessPath =
        .ok program := by
  rw [decompilerOf, Headless.ofSettings]
  cases Analyzer.locate tree services.environment settings.decompiler.headlessPath <;>
    simp [bind, Except.bind, pure, Except.pure]

/-- Settings that select a decompiler select no search exactly if they select no backend. -/
theorem searchOf_eq_error_iff [Libraries] {settings : Settings} :
    searchOf services tree settings = .error error ↔
      decompilerOf services tree settings = .error error ∨
        (∃ decompiler, decompilerOf services tree settings = .ok decompiler) ∧
          ∃ cause, NoModel settings.model cause ∧ error = .model cause := by
  have hbackend : (Scoring.backend? settings.model services.launcher
        services.transport).mapError .model = .error error ↔
      ∃ cause, NoModel settings.model cause ∧ error = .model cause := by
    simp only [mapError_eq_error_iff, backend?_eq_error_iff]
  simp only [searchOf, bind_eq_error_iff, hbackend, pure, Except.pure, reduceCtorEq, and_false,
    exists_false, or_false, exists_and_right]

/-- **A search is refused for the reasons named and for no other.** -/
theorem FindRequest.prepare_eq_error_iff [Libraries] {request : FindRequest} :
    request.prepare services tree = .error error ↔
      request.Refused services.environment tree error := by
  rw [FindRequest.prepare]
  by_cases hdescription : Text.Blank request.description.toList
  · rw [if_neg (by rwa [Text.hasContent_eq_true_iff, not_not])]
    constructor
    · intro h
      obtain rfl := Except.error.inj h
      exact .blank hdescription
    · rintro (_ | ⟨hcontent, -⟩ | ⟨hcontent, -⟩)
      · rfl
      · exact absurd hdescription hcontent
      · exact absurd hdescription hcontent
  · rw [if_pos ((Text.hasContent_eq_true_iff _).mpr hdescription)]
    simp only [bind_eq_error_iff, searchOf_eq_error_iff, exists_decompilerOf_iff]
    constructor
    · rintro (hsettings | ⟨settings, hsettings, hdecompiler | ⟨⟨program, hlocate⟩, cause, hnone,
        rfl⟩⟩)
      · exact .decompiler hdescription
          (noDecompiler_iff.mp (bind_eq_error_iff.mpr (.inl hsettings)))
      · exact .decompiler hdescription
          (noDecompiler_iff.mp (bind_eq_error_iff.mpr (.inr ⟨settings, hsettings, hdecompiler⟩)))
      · exact .model hdescription (settingsOf_eq_ok_iff.mp hsettings) hlocate hnone
    · rintro (hblank | ⟨-, hnone⟩ | ⟨-, hsettings, hlocate, hnone⟩)
      · exact absurd hblank hdescription
      · refine (bind_eq_error_iff.mp (noDecompiler_iff.mpr hnone)).imp_right ?_
        rintro ⟨settings, hsettings, hdecompiler⟩
        exact ⟨settings, hsettings, .inl hdecompiler⟩
      · exact .inr ⟨_, settingsOf_eq_ok_iff.mpr hsettings, .inr ⟨⟨_, hlocate⟩, _, hnone, rfl⟩⟩

/-! ## Failures that come later -/

theorem not_isRefusal_printDocument {run : SearchRun}
    (h : (printDocument run).result = .error error) : ¬ error.IsRefusal := by
  rw [printDocument] at h
  split at h
  · obtain rfl := Except.error.inj h
    rintro ⟨⟩
  · split at h
    · cases h
    · obtain rfl := Except.error.inj h
      rintro ⟨⟩

theorem not_isRefusal_printText {run : SearchRun} {kept : Option Path}
    (h : (printText run kept).result = .error error) : ¬ error.IsRefusal := by
  rw [printText] at h
  split at h
  · obtain rfl := Except.error.inj h
    rintro ⟨⟩
  · cases h

theorem not_isRefusal_printBatch {json : Bool} {output : Path} {run : Batch.Run}
    (h : (printBatch json tree output run).result = .error error) : ¬ error.IsRefusal := by
  rw [printBatch] at h
  split at h
  · next houtput =>
    obtain rfl := Except.error.inj h
    rw [batchOutput] at houtput
    split at houtput <;> split at houtput
    · cases houtput
    · obtain rfl := Except.error.inj houtput
      rintro ⟨⟩
    · cases houtput
    · obtain rfl := Except.error.inj houtput
      rintro ⟨⟩
  · dsimp only at h
    split at h
    · obtain rfl := Except.error.inj h
      rintro ⟨⟩
    · cases h

theorem not_isRefusal_openStore {environment : Environment} {keep : Option Path}
    (h : openStore environment tree keep = .error error) : ¬ error.IsRefusal := by
  unfold openStore at h
  cases keep with
  | some directory =>
    simp only [bind_eq_error_iff, makeOutput, mapError_eq_error_iff, pure, Except.pure,
      reduceCtorEq, and_false, exists_false, or_false] at h
    obtain ⟨cause, -, rfl⟩ := h
    rintro ⟨⟩
  | none =>
    dsimp only at h
    split at h
    · cases h
    · obtain rfl := Except.error.inj h
      rintro ⟨⟩

/-- A search that was prepared does not fail for one of these reasons any more. -/
theorem not_isRefusal_find [Libraries] {request : FindRequest} {world : World σ} {search : Search σ}
    (hprepare : request.prepare services world.files = .ok search)
    (h : (find services request world).1.result = .error error) : ¬ error.IsRefusal := by
  simp only [find, hprepare] at h
  split at h
  · next hopen =>
    obtain rfl := Except.error.inj h
    exact not_isRefusal_openStore hopen
  · dsimp only at h
    split at h
    · exact not_isRefusal_printDocument h
    · exact not_isRefusal_printText h

/-- A decompilation that was prepared does not fail for one of these reasons any more. -/
theorem not_isRefusal_decompile {request : DecompileRequest} {world : World σ}
    {decompiler : Decompiler σ} (hprepare : request.prepare services world.files = .ok decompiler)
    (h : (decompile services request world).1.result = .error error) : ¬ error.IsRefusal := by
  simp only [decompile, hprepare] at h
  split at h
  · next hmake =>
    obtain rfl := Except.error.inj h
    rw [makeOutput, mapError_eq_error_iff] at hmake
    obtain ⟨cause, -, rfl⟩ := hmake
    rintro ⟨⟩
  · split at h
    · obtain rfl := Except.error.inj h
      rintro ⟨⟩
    · exact not_isRefusal_printBatch h

/-! ## Refused commands -/

theorem FindRequest.Refused.isRefusal [Libraries] {environment : Environment}
    {request : FindRequest}
    (h : request.Refused environment tree error) : error.IsRefusal := by
  cases h with
  | blank => exact .blankDescription
  | decompiler _ h => exact h.isRefusal
  | model => exact .model _

/-- A find command that is refused ends at once. -/
theorem find_of_refused [Libraries] {request : FindRequest} {world : World σ}
    (h : request.Refused services.environment world.files error) :
    find services request world = (.failure error, world) := by
  simp only [find, FindRequest.prepare_eq_error_iff.mpr h]

/-- A decompile command that is refused ends at once. -/
theorem decompile_of_refused {request : DecompileRequest} {world : World σ}
    (h : request.Refused services.environment world.files error) :
    decompile services request world = (.failure error, world) := by
  simp only [decompile, DecompileRequest.prepare_eq_error_iff.mpr h]

/-- **A find command fails for one of these reasons exactly if it is refused.** -/
theorem find_refused_iff [Libraries] {request : FindRequest} {world : World σ} :
    (find services request world).1.result = .error error ∧ error.IsRefusal ↔
      request.Refused services.environment world.files error := by
  constructor
  · intro ⟨hresult, hkind⟩
    rw [← FindRequest.prepare_eq_error_iff]
    cases hprepare : request.prepare services world.files with
    | ok search => exact absurd hkind (not_isRefusal_find hprepare hresult)
    | error refusal =>
      simp only [find, hprepare] at hresult
      exact congrArg Except.error (Except.error.inj hresult)
  · intro h
    rw [find_of_refused h]
    exact ⟨rfl, h.isRefusal⟩

/-- **A decompile command fails for one of these reasons exactly if it is refused.** -/
theorem decompile_refused_iff {request : DecompileRequest} {world : World σ} :
    (decompile services request world).1.result = .error error ∧ error.IsRefusal ↔
      request.Refused services.environment world.files error := by
  constructor
  · intro ⟨hresult, hkind⟩
    rw [← DecompileRequest.prepare_eq_error_iff]
    cases hprepare : request.prepare services world.files with
    | ok decompiler => exact absurd hkind (not_isRefusal_decompile hprepare hresult)
    | error refusal =>
      simp only [decompile, hprepare] at hresult
      exact congrArg Except.error (Except.error.inj hresult)
  · intro h
    rw [decompile_of_refused h]
    exact ⟨rfl, NoDecompiler.isRefusal h⟩

/-! ## Directories for functions -/

/-- A directory for functions that is a scratch one, or that was there already. -/
def LeavesNoTrace (tree : FileTree) : Option Path → Prop
  | some directory => tree.isDirectory (tree.absolute directory) = true
  | none => tree.WellFormed

/-- Such a directory leaves nothing behind if no work is done in it. -/
theorem close_openStore {environment : Environment} {keep : Option Path} {store : FunctionStore}
    {files : FileTree} (hkeep : LeavesNoTrace tree keep)
    (h : openStore environment tree keep = .ok (store, files)) : store.close files = tree := by
  unfold openStore at h
  cases keep with
  | some directory =>
    have hmake : makeOutput tree (tree.absolute directory) = .ok tree := by
      rw [makeOutput, FileTree.makeDirectories_of_isDirectory hkeep]
      rfl
    simp only [hmake] at h
    obtain ⟨rfl, rfl⟩ := Prod.mk.inj (Except.ok.inj h)
    rfl
  | none =>
    dsimp only at h
    split at h
    · next scratch after hcreate =>
      obtain ⟨rfl, rfl⟩ := Prod.mk.inj (Except.ok.inj h)
      obtain ⟨hfresh, rfl⟩ := Scratch.create_eq_ok hcreate
      exact hfresh.discard_put hkeep
    · cases h

/-- A find command whose search is refused shows nothing but the failure. -/
theorem find_of_search_refused [Libraries] {request : FindRequest} {world : World σ}
    {search : Search σ} {store : FunctionStore} {files : FileTree} {refusal : SearchError}
    (hprepare : request.prepare services world.files = .ok search)
    (hopen : openStore services.environment world.files request.keepOutput = .ok (store, files))
    (h : Search.Refused files request.target store.path refusal) :
    find services request world =
      (.failure (.search refusal), { world with files := store.close files }) := by
  have hrun : search.run request.target request.description store.path { world with files } =
      (⟨[], [], .error refusal⟩, { world with files }) := Search.run_of_refused search _ h
  simp only [find, hprepare, hopen, hrun]
  cases request.json <;> rfl

/-! ## Nothing happens -/

/-- **What is refused leaves everything as it is.** Whatever the programs, the servers, the
decompiler and the model would do, they are not called: the world stays the same, and with it the
files and all that the outside could tell of a call.

* A search that is refused shows no step and no table.
* A find command and a decompile command that are refused show no step and print nothing on the
  output stream, and the program ends with the code 1. They are the ones that fail for one of these
  reasons.
* A find command whose search is refused shows and prints as little, and leaves nothing behind but
  the directory for functions that it made for keeps. -/
theorem intact_of_refused [Libraries] (σ : Type) :
    (∀ (search : Search σ) target description output world refusal,
      Search.Refused world.files target output refusal →
      search.run target description output world = (⟨[], [], .error refusal⟩, world)) ∧
    (∀ (services : Services σ) (request : FindRequest) world error,
      ((find services request world).1.result = .error error ∧ error.IsRefusal ↔
        request.Refused services.environment world.files error) ∧
      (request.Refused services.environment world.files error →
        find services request world = (.failure error, world) ∧
        ∃ stderr, perform services (.find request) world = (⟨1, "", stderr⟩, world))) ∧
    (∀ (services : Services σ) (request : DecompileRequest) world error,
      ((decompile services request world).1.result = .error error ∧ error.IsRefusal ↔
        request.Refused services.environment world.files error) ∧
      (request.Refused services.environment world.files error →
        decompile services request world = (.failure error, world) ∧
        ∃ stderr, perform services (.decompile request) world = (⟨1, "", stderr⟩, world))) ∧
    ∀ (services : Services σ) (request : FindRequest) world search store files refusal,
      request.prepare services world.files = .ok search →
      openStore services.environment world.files request.keepOutput = .ok (store, files) →
      Search.Refused files request.target store.path refusal →
      find services request world =
        (.failure (.search refusal), { world with files := store.close files }) ∧
      (LeavesNoTrace world.files request.keepOutput →
        find services request world = (.failure (.search refusal), world)) := by
  refine ⟨fun search _ description _ _ _ h => Search.run_of_refused search description h,
    fun services request world error => ⟨find_refused_iff, fun h => ?_⟩,
    fun services request world error => ⟨decompile_refused_iff, fun h => ?_⟩,
    fun services request world search store files refusal hprepare hopen h => ?_⟩
  · refine ⟨find_of_refused h, error.report, ?_⟩
    simp only [perform, find_of_refused h]
    rfl
  · refine ⟨decompile_of_refused h, error.report, ?_⟩
    simp only [perform, decompile_of_refused h]
    rfl
  · have hfind := find_of_search_refused hprepare hopen h
    refine ⟨hfind, fun hkeep => ?_⟩
    rw [hfind, close_openStore hkeep hopen]

/-- Libraries that have no client. -/
@[reducible]
def clientless : Libraries :=
  { Libraries.silent with clientFault := fun _ => some "no roots" }

/-- A settings file that asks a program for answers and names none. -/
def namingNoProgram : World Unit :=
  { twoFiles [0] [1] with
    files := (twoFiles [0] [1]).files.put [Text.bytes "c.json"]
      (.file (Text.bytes "\x7b\"model\":\x7b\"backend\":\"command\"\x7d\x7d") false) }

/-- A directory as output that has entries, a file in its place, and a target that is not there; a
description of blanks, no analyzer, no settings file, no program to ask and no client; and a
directory to keep the functions in that has entries. -/
theorem intact_of_refused_failing :
    let world := twoFiles [0] [1]
    (∀ target, failingSearch.run target "rc4" (.ofString "/in") world =
      (⟨[], [], .error (.outputNotEmpty (.ofString "/in"))⟩, world)) ∧
    (∀ target, failingSearch.run target "rc4" (.ofString "/t") world =
      (⟨[], [], .error (.artifacts (.ofString "/t") .notDirectory)⟩, world)) ∧
    failingSearch.run (.ofString "/x") "rc4" (.ofString "/out") world =
      (⟨[], [], .error (.decompile (.missingBinary (.ofString "/x")))⟩, world) ∧
    find failing { findInFolder with description := " \n" } world =
      (.failure .blankDescription, world) ∧
    find failing { findInFolder with overrides := {} } world =
      (.failure (.analyzer (.toolNotFound Analyzer.advice)), world) ∧
    find failing { findInFolder with config := some (.ofString "/c.json") } namingNoProgram =
      (.failure (.model (.config "model.command is empty")), namingNoProgram) ∧
    @find clientless Unit failing findInFolder world =
      (.failure (.model (.config "failed to build HTTP client: no roots")), world) ∧
    decompile failing { decompileInFolder with config := some (.ofString "/c.json") } world =
      (.failure (.settings (.load (.unreadable (.ofString "/c.json") .notFound))), world) ∧
    find failing { findInFolder with keepOutput := some (.ofString "/in") } world =
      (.failure (.search (.outputNotEmpty (.ofString "/in"))), world) := by
  intro world
  obtain ⟨hsearch, hfind, hdecompile, hkept⟩ := intact_of_refused Unit
  have hoccupied : ∀ target, Search.Refused world.files target (.ofString "/in")
      (.outputNotEmpty (.ofString "/in")) := fun target =>
    .occupied (show world.files.list (.ofString "/in") =
      .ok [(Text.bytes "a", .file [0] false), (Text.bytes "b", .file [1] false)] from rfl) (by simp)
  have hsettings : Settings.resolve namingNoProgram.files failing.environment
      (some (.ofString "/c.json")) namingProgram =
        .ok ⟨{ headlessPath := some (.ofString "/t") }, { backend := .command }⟩ := by
    decide +kernel
  have hnoProgram : FindRequest.Refused failing.environment namingNoProgram.files
      { findInFolder with config := some (.ofString "/c.json") }
      (.model (.config "model.command is empty")) :=
    .model (by decide) hsettings (show _ = Except.ok (Path.ofString "/t") from rfl)
      (.nameless rfl rfl)
  have hdefaults : Settings.resolve world.files failing.environment none namingProgram =
      .ok ⟨{ headlessPath := some (.ofString "/t") }, {}⟩ := by
    decide +kernel
  have htext : "failed to build HTTP client: no roots" =
      "failed to build HTTP client: " ++ "no roots" := by
    decide +kernel
  have hclientless : @FindRequest.Refused clientless failing.environment world.files findInFolder
      (.model (.config "failed to build HTTP client: no roots")) :=
    htext ▸ @FindRequest.Refused.model clientless _ _ _ _ _ _ (by decide) hdefaults
      (show _ = Except.ok (Path.ofString "/t") from rfl)
      (@NoModel.clientless clientless _ _ rfl rfl)
  refine ⟨fun target => hsearch _ _ _ _ _ _ (hoccupied target), fun target =>
    hsearch _ _ _ _ _ _ (.unlistable rfl (by decide)),
    hsearch _ _ _ _ _ _ (.missing (.inr rfl) rfl rfl),
    ((hfind failing _ world _).2 (.blank (by decide))).1,
    ((hfind failing _ world _).2 (.decompiler (by decide) (.analyzer rfl rfl))).1,
    ((hfind failing _ namingNoProgram _).2 hnoProgram).1,
    ((@intact_of_refused clientless Unit).2.1 failing _ world _ |>.2 hclientless).1,
    ((hdecompile failing _ world _).2 (.settings rfl)).1,
    (hkept failing _ world failingSearch ⟨.ofString "/in", none⟩ _ _ rfl rfl
      (hoccupied _)).2 rfl⟩

end CommandLine

end FunctionSearch
