import FunctionSearch.Scoring.Address
import Mathlib.Data.List.DropRight
import Mathlib.Data.List.Infix

/-!
# One address for every way of giving it

An endpoint may be given with the path of completions or without it, and with any number of slashes
behind it.

* `Gives` says which base address an endpoint gives.
* `exists_gives`: every text gives one.
* `toList_completionsUrl_iff`: the address of completions is the base with the path behind it.
* `completionsUrl_normalizes` puts together what follows: one more reading changes nothing, and
  neither do slashes at the end.
-/

namespace FunctionSearch.Scoring

/-! ## Slashes -/

/-- That many slashes. -/
def slashes (n : Nat) : List Char :=
  List.replicate n '/'

theorem trimSlashes_eq_rdropWhile (s : List Char) : trimSlashes s = s.rdropWhile (· == '/') := rfl

theorem trimSlashes_append_slashes (s : List Char) (n : Nat) :
    trimSlashes (s ++ slashes n) = trimSlashes s := by
  have hslashes : ∀ c ∈ (slashes n).reverse, (c == '/') = true := by
    intro c hc
    rw [List.mem_reverse] at hc
    exact beq_iff_eq.mpr (List.eq_of_mem_replicate hc)
  rw [trimSlashes, trimSlashes, List.reverse_append, List.dropWhile_append_of_pos hslashes]

theorem trimSlashes_eq_self {s : List Char} (h : s.getLast? ≠ some '/') : trimSlashes s = s := by
  rw [trimSlashes_eq_rdropWhile, List.rdropWhile_eq_self_iff]
  intro hne hlast
  rw [List.getLast?_eq_some_getLast hne, beq_iff_eq.mp hlast] at h
  exact h rfl

theorem getLast?_trimSlashes_ne (s : List Char) : (trimSlashes s).getLast? ≠ some '/' := by
  intro h
  obtain ⟨hne, hlast⟩ := List.mem_getLast?_eq_getLast h
  have hnot := List.rdropWhile_last_not (· == '/') s hne
  exact hnot (beq_iff_eq.mpr hlast.symm)

/-- What is taken off a text are slashes. -/
theorem exists_eq_trimSlashes_append (s : List Char) : ∃ n, s = trimSlashes s ++ slashes n := by
  refine ⟨(s.rtakeWhile (· == '/')).length, ?_⟩
  have hmem : ∀ c ∈ s.rtakeWhile (· == '/'), (c == '/') = true := fun _ hc =>
    List.mem_rtakeWhile_imp (p := (· == '/')) hc
  have htaken : s.rtakeWhile (· == '/') = slashes (s.rtakeWhile (· == '/')).length :=
    List.eq_replicate_of_mem fun c hc => beq_iff_eq.mp (hmem c hc)
  rw [← htaken, trimSlashes_eq_rdropWhile, List.rdropWhile_append_rtakeWhile]

/-! ## Bases -/

/-- The endpoints that give a base address: the base itself, or the base with the path of
completions behind it, and any number of slashes behind either. A base that stands by itself has
nothing at its end that would be taken for a part of this. -/
inductive Gives (base : List Char) : List Char → Prop
  | bare (n : Nat) (hslash : base.getLast? ≠ some '/') (hpath : ¬ completionsPath <:+ base) :
      Gives base (base ++ slashes n)
  | complete (n : Nat) : Gives base (base ++ completionsPath ++ slashes n)

variable {base s : List Char}

theorem getLast?_append_completionsPath (base : List Char) :
    (base ++ completionsPath).getLast? ≠ some '/' := by
  rw [List.getLast?_append_of_ne_nil base (by decide)]
  decide

/-- **Every text gives a base.** -/
theorem exists_gives (s : List Char) : ∃ base, Gives base s := by
  obtain ⟨n, hs⟩ := exists_eq_trimSlashes_append s
  by_cases hpath : completionsPath <:+ trimSlashes s
  · obtain ⟨base, hbase⟩ := hpath
    rw [hs, ← hbase]
    exact ⟨base, .complete n⟩
  · have hbare := Gives.bare n (getLast?_trimSlashes_ne s) hpath
    rw [← hs] at hbare
    exact ⟨trimSlashes s, hbare⟩

theorem Gives.append_slashes (h : Gives base s) (n : Nat) : Gives base (s ++ slashes n) := by
  cases h with
  | bare m hslash hpath =>
    rw [List.append_assoc, slashes, slashes, List.replicate_append_replicate]
    exact .bare (m + n) hslash hpath
  | complete m =>
    rw [List.append_assoc, slashes, slashes, List.replicate_append_replicate]
    exact .complete (m + n)

/-! ## Addresses -/

theorem Gives.toList_completionsUrl {endpoint : String} (h : Gives base endpoint.toList) :
    (completionsUrl endpoint).toList = base ++ completionsPath := by
  rw [completionsUrl, String.toList_ofList]
  generalize endpoint.toList = s at h
  cases h with
  | bare n hslash hpath =>
    have hnot : completionsPath.isSuffixOf base = false := by
      rwa [← Bool.not_eq_true, List.isSuffixOf_iff_suffix]
    rw [trimSlashes_append_slashes, trimSlashes_eq_self hslash, hnot]
    rfl
  | complete n =>
    have hsuffix : completionsPath.isSuffixOf (base ++ completionsPath) = true :=
      List.isSuffixOf_iff_suffix.mpr (List.suffix_append base completionsPath)
    rw [trimSlashes_append_slashes, trimSlashes_eq_self (getLast?_append_completionsPath base),
      hsuffix]
    rfl

/-- **The address of completions is the base that the endpoint gives and behind it their path.** -/
theorem toList_completionsUrl_iff {endpoint : String} :
    (completionsUrl endpoint).toList = base ++ completionsPath ↔ Gives base endpoint.toList := by
  refine ⟨fun h => ?_, Gives.toList_completionsUrl⟩
  obtain ⟨other, hother⟩ := exists_gives endpoint.toList
  have hsame : base ++ completionsPath = other ++ completionsPath :=
    h.symm.trans hother.toList_completionsUrl
  rwa [List.append_cancel_right hsame]

/-- Endpoints that give one base have one address. -/
theorem Gives.completionsUrl_eq {endpoint other : String} (h : Gives base endpoint.toList)
    (h' : Gives base other.toList) : completionsUrl endpoint = completionsUrl other :=
  String.toList_injective (h.toList_completionsUrl.trans h'.toList_completionsUrl.symm)

/-- **An endpoint may be given in any form.** Its address of completions ends in their path, is its
own address of completions, and is that of the endpoint with more slashes behind it. What stands in
front of the path is the base that the endpoint gives and nothing else. -/
theorem completionsUrl_normalizes (endpoint : String) :
    completionsPath <:+ (completionsUrl endpoint).toList ∧
    completionsUrl (completionsUrl endpoint) = completionsUrl endpoint ∧
    (∀ n, completionsUrl (endpoint ++ String.ofList (slashes n)) = completionsUrl endpoint) ∧
    ∀ base, (completionsUrl endpoint).toList = base ++ completionsPath ↔
      Gives base endpoint.toList := by
  obtain ⟨base, hbase⟩ := exists_gives endpoint.toList
  have hurl := hbase.toList_completionsUrl
  refine ⟨⟨base, hurl.symm⟩, ?_, fun n => ?_, fun _ => toList_completionsUrl_iff⟩
  · -- the address gives the same base, with the path and without a slash behind it
    have hagain : Gives base (completionsUrl endpoint).toList := by
      have hcomplete : Gives base (base ++ completionsPath ++ slashes 0) := .complete 0
      rwa [slashes, List.replicate_zero, List.append_nil, ← hurl] at hcomplete
    exact hagain.completionsUrl_eq hbase
  · have hmore : Gives base (endpoint ++ String.ofList (slashes n)).toList := by
      rw [String.toList_append, String.toList_ofList]
      exact hbase.append_slashes n
    exact hmore.completionsUrl_eq hbase

/-- Slashes alone give the empty base. -/
example : completionsUrl "//" = "/chat/completions" := by decide

/-- Only one path is taken off. -/
example : completionsUrl "h/chat/completions/chat/completions/" =
    "h/chat/completions/chat/completions" := by decide +kernel

end FunctionSearch.Scoring
