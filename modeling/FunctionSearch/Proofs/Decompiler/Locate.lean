import FunctionSearch.Decompiler.Locate
import Mathlib.Data.List.Basic

/-!
# The first place that has the analyzer

Where the analyzer is found, on every file tree, in every environment and whatever a search for it
finds.

* `Source` are the places that are asked when no path is configured, in the order of their turns,
  and `Offers` says what a place has to offer.
* `First` is an offer before which there is none.
* `resolve_none_eq`: without a configured path the analyzer is found by asking the `sources` in
  their order, and `resolve_none_eq_ok_iff` that this gives the first offer.
* `resolve_takes_first` puts this together with what a configured path does.
* `runs_of_locate`: on a file tree, what is found may be run.
-/

namespace FunctionSearch

/-- A path that leads to a file that may be run. -/
def FileTree.Runs (tree : FileTree) (path : Path) : Prop :=
  ∃ location content mode,
    tree.entry? path = .ok (location, .file content mode) ∧ mode.executable = true

theorem FileTree.isExecutable_eq_true_iff {tree : FileTree} {path : Path} :
    tree.isExecutable path = true ↔ tree.Runs path := by
  rw [isExecutable, Runs]
  constructor
  · intro h
    split at h
    next location content mode hentry => exact ⟨location, content, mode, hentry, h⟩
    · cases h
  · rintro ⟨location, content, mode, hentry, hmode⟩
    rw [hentry]
    exact hmode

namespace Analyzer

/-! ## Offers -/

/-- A place that is asked when no path is configured. -/
inductive Source where
  /-- The analyzer that the environment names. -/
  | program
  /-- The directory for programs of the installation that the environment names. -/
  | support
  /-- The root of that installation. -/
  | root
  /-- A search for the file name. -/
  | search
  deriving DecidableEq, Repr

/-- The turn of a place. -/
def Source.turn : Source → Nat
  | .program => 0
  | .support => 1
  | .root => 2
  | .search => 3

/-- The path that a place names, if it names one. -/
def Source.path? (lookup search : String → Option Path) : Source → Option Path
  | .program => lookup programVariable
  | .support => (lookup installVariable).map fun directory => (directory.sub "support").sub fileName
  | .root => (lookup installVariable).map fun directory => directory.sub fileName
  | .search => search fileName

/-- A path that a place has to offer. What the environment names has to be a file that may be run;
what the search finds is taken as it is. -/
structure Offers (tree : FileTree) (lookup search : String → Option Path) (source : Source)
    (path : Path) : Prop where
  names : source.path? lookup search = some path
  runs : source ≠ .search → tree.Runs path

/-- An offer before whose turn there is none. -/
structure First (tree : FileTree) (lookup search : String → Option Path) (source : Source)
    (path : Path) : Prop where
  offers : Offers tree lookup search source path
  before : ∀ earlier other, earlier.turn < source.turn → ¬ Offers tree lookup search earlier other

variable {tree : FileTree} {lookup search : String → Option Path} {source : Source} {path : Path}

/-! ## The order of the places -/

/-- The places in the order in which they are asked. -/
def sources : List Source :=
  [.program, .support, .root, .search]

/-- What a place has to offer, given which paths are programs. -/
def offer? (isProgram : Path → Bool) (lookup search : String → Option Path) (source : Source) :
    Option Path :=
  (source.path? lookup search).filter fun path => source == .search || isProgram path

theorem offer?_eq_some_iff : offer? tree.isExecutable lookup search source = some path ↔
    Offers tree lookup search source path := by
  rw [offer?, Option.filter_eq_some_iff, Bool.or_eq_true, beq_iff_eq,
    FileTree.isExecutable_eq_true_iff, or_iff_not_imp_left]
  exact ⟨fun ⟨hnames, hruns⟩ => ⟨hnames, hruns⟩, fun ⟨hnames, hruns⟩ => ⟨hnames, hruns⟩⟩

theorem offer?_eq_none_iff : offer? tree.isExecutable lookup search source = none ↔
    ∀ path, ¬ Offers tree lookup search source path := by
  simp only [Option.eq_none_iff_forall_ne_some, ne_eq, offer?_eq_some_iff]

theorem mem_sources (source : Source) : source ∈ sources := by
  cases source <;> decide

theorem pairwise_sources : sources.Pairwise fun a b => a.turn < b.turn := by
  decide

/-- What stands in front of a place is what has an earlier turn. -/
theorem mem_iff_turn_lt {before after : List Source} (h : sources = before ++ source :: after)
    (earlier : Source) : earlier ∈ before ↔ earlier.turn < source.turn := by
  -- the turns rise along the list, so they tell what is in front from what is behind
  have hpairwise := pairwise_sources
  rw [h, List.pairwise_append, List.pairwise_cons] at hpairwise
  obtain ⟨-, ⟨hafter, -⟩, hbefore⟩ := hpairwise
  refine ⟨fun hmem => hbefore earlier hmem source List.mem_cons_self, fun hlt => ?_⟩
  have hmem := mem_sources earlier
  rw [h, List.mem_append, List.mem_cons] at hmem
  obtain hmem | rfl | hmem := hmem
  · exact hmem
  · exact absurd hlt (Nat.lt_irrefl _)
  · exact absurd hlt (Nat.lt_asymm (hafter earlier hmem))

theorem findSome?_sources_eq_some_iff :
    sources.findSome? (offer? tree.isExecutable lookup search) = some path ↔
      ∃ source, First tree lookup search source path := by
  rw [List.findSome?_eq_some_iff]
  constructor
  · rintro ⟨before, source, after, hsplit, hoffer, hnone⟩
    refine ⟨source, offer?_eq_some_iff.mp hoffer, fun earlier other hlt hother => ?_⟩
    have hmem := (mem_iff_turn_lt hsplit earlier).mpr hlt
    exact offer?_eq_none_iff.mp (hnone earlier hmem) other hother
  · rintro ⟨source, hoffers, hbefore⟩
    obtain ⟨before, after, hsplit⟩ := List.append_of_mem (mem_sources source)
    refine ⟨before, source, after, hsplit, offer?_eq_some_iff.mpr hoffers, fun earlier hmem => ?_⟩
    exact offer?_eq_none_iff.mpr fun other =>
      hbefore earlier other ((mem_iff_turn_lt hsplit earlier).mp hmem)

/-- The places that the environment names. -/
def named : List Source :=
  [.program, .support, .root]

theorem candidates_eq (lookup search : String → Option Path) :
    candidates lookup = named.filterMap (Source.path? lookup search) := by
  rw [candidates, named]
  cases hprogram : lookup programVariable <;> cases hinstall : lookup installVariable <;>
    simp [Source.path?, hprogram, hinstall, installed]

theorem find?_filterMap_eq_findSome? {α β : Type} (f : α → Option β) (p : β → Bool) (l : List α) :
    (l.filterMap f).find? p = l.findSome? fun a => (f a).filter p := by
  induction l with
  | nil => rfl
  | cons a l ih =>
    rw [List.findSome?_cons, List.filterMap_cons]
    cases f a with
    | none => exact ih
    | some b =>
      rw [List.find?_cons, Option.filter_some]
      cases p b
      · exact ih
      · rfl

/-- **Without a configured path the places are asked in their order.** -/
theorem resolve_none_eq (isProgram : Path → Bool) (lookup search : String → Option Path) :
    resolve isProgram lookup search none =
      match sources.findSome? (offer? isProgram lookup search) with
      | some path => .ok path
      | none => .error (.toolNotFound advice) := by
  have hsearch : [Source.search].findSome? (offer? isProgram lookup search) = search fileName := by
    rw [List.findSome?_cons, offer?, Source.path?]
    cases search fileName <;> rfl
  have hnamed : (candidates lookup).find? isProgram =
      named.findSome? (offer? isProgram lookup search) := by
    rw [candidates_eq lookup search, find?_filterMap_eq_findSome?]
    rfl
  have hfound : ((candidates lookup).find? isProgram).or (search fileName) =
      sources.findSome? (offer? isProgram lookup search) := by
    rw [hnamed, ← hsearch, ← List.findSome?_append]
    rfl
  rw [← hfound]
  rfl

theorem resolve_none_eq_ok_iff : resolve tree.isExecutable lookup search none = .ok path ↔
    ∃ source, First tree lookup search source path := by
  rw [resolve_none_eq, ← findSome?_sources_eq_some_iff]
  cases sources.findSome? (offer? tree.isExecutable lookup search) <;> simp

/-- What is said of a configured path that is no program. -/
def refusal (path : Path) : DecompileError :=
  .toolNotFound s!"configured path {path.display} is not an executable file"

theorem resolve_some_eq (path : Path) : resolve tree.isExecutable lookup search (some path) =
    if tree.isExecutable path then .ok path else .error (refusal path) := rfl

/-- **On a file tree, what is found may be run.** -/
theorem runs_of_locate {environment : Environment} {configured : Option Path}
    (h : locate tree environment configured = .ok path) : tree.Runs path := by
  rw [locate] at h
  cases configured with
  | some configured =>
    rw [resolve_some_eq] at h
    split at h
    next hexecutable =>
      obtain rfl := Except.ok.inj h
      exact FileTree.isExecutable_eq_true_iff.mp hexecutable
    · cases h
  | none =>
    obtain ⟨source, hnames, hruns⟩ := (resolve_none_eq_ok_iff.mp h).imp fun _ => First.offers
    by_cases hsearch : source = .search
    · subst hsearch
      exact FileTree.isExecutable_eq_true_iff.mp (List.find?_some hnames)
    · exact hruns hsearch

end Analyzer

end FunctionSearch
