import FunctionSearch.Proofs.Export.Script
import FunctionSearch.Proofs.Text.Cutting
import FunctionSearch.Proofs.Text.Scan

/-!
# The placeholder in scripts

A scan of the template finds one placeholder (`ends_template`), so it is gone from the script for
a directory, unless the directory itself spells it (`infix_scriptFor_iff`). What decides is the
literal: its escapes hold no character of the placeholder (`Written.eq_or_foreign`), so it spells
what the directory spells (`infix_flatMap_iff`).
-/

namespace FunctionSearch.Export

open Text

/-! ## The template -/

theorem placeholder_ne_nil : placeholder ≠ [] := by
  rw [placeholder_eq]
  exact List.cons_ne_nil _ _

theorem not_infix_behindPlaceholder : ¬ placeholder <:+: behindPlaceholder := by
  rintro ⟨front, rest, h⟩
  -- another occurrence would be one of the template as well
  have hsplit : template = (beforePlaceholder ++ placeholder ++ front) ++ placeholder ++ rest := by
    rw [template_eq_append, ← h]
    simp
  have hlength := congrArg List.length (eq_of_template_eq_append hsplit).1
  have hpos := List.length_pos_iff.mpr placeholder_ne_nil
  simp only [List.length_append] at hlength
  omega

theorem occurrences_template : occurrences placeholder template = 1 := by
  rw [occurrences_of_isFirstSplit placeholder_ne_nil isFirstSplit_template,
    occurrences_of_not_isInfix not_infix_behindPlaceholder]

/-- **The template has one placeholder**, as a scan of its bytes counts. -/
theorem ends_template : Scan.Ends (Utf8.encode placeholder) (Utf8.encode template) .initial 1 := by
  rw [Scan.ends_initial_iff (Utf8.encode_ne_nil placeholder_ne_nil),
    Utf8.occurrences_encode placeholder_ne_nil, occurrences_template]

/-! ## The literal -/

/-- Neither a character that is escaped with a letter nor the letter is one of the placeholder. -/
theorem notMem_placeholder_of_escaped? {letter c : Char} (h : escaped? letter = some c) :
    letter ∉ placeholder ∧ c ∉ placeholder := by
  rw [placeholder_eq]
  unfold escaped? at h
  split at h
  all_goals first | cases h; done | (obtain rfl := Option.some.inj h; decide)

theorem digitChar_notMem_placeholder : ∀ n < 16, Nat.digitChar n ∉ placeholder := by
  rw [placeholder_eq]
  decide

/-- A character stands in a literal as it is, or else neither it nor what is written for it has
anything of the placeholder. -/
theorem Written.eq_or_foreign {c : Char} {w : List Char} (h : Written c w) :
    w = [c] ∨ c ∉ placeholder ∧ w ≠ [] ∧ ∀ x ∈ w, x ∉ placeholder := by
  have hslash : '\\' ∉ placeholder := by simp [placeholder_eq]
  cases h with
  | named h =>
    obtain ⟨hletter, hc⟩ := notMem_placeholder_of_escaped? h
    exact .inr ⟨hc, List.cons_ne_nil _ _, by simp [hslash, hletter]⟩
  | numbered h =>
    have hc : c ∉ placeholder := fun hmem => by
      have hprint : ∀ x ∈ placeholder, 0x20 ≤ x.toNat := by simp [placeholder_eq]
      exact absurd (hprint c hmem) (Nat.not_le.mpr h)
    have hu : 'u' ∉ placeholder ∧ '0' ∉ placeholder := by simp [placeholder_eq]
    have hhigh := digitChar_notMem_placeholder (c.toNat / 16) (by omega)
    have hlow := digitChar_notMem_placeholder (c.toNat % 16) (by omega)
    exact .inr ⟨hc, List.cons_ne_nil _ _, by simp [hslash, hu, hhigh, hlow]⟩
  | plain => exact .inl rfl

section Escapes

variable {f : Char → List Char} {pattern s : List Char}
  (hf : ∀ c, f c = [c] ∨ c ∉ pattern ∧ f c ≠ [] ∧ ∀ x ∈ f c, x ∉ pattern)

include hf

theorem infix_of_infix_append_flatMap {front : List Char} (h : pattern <:+: front ++ s.flatMap f) :
    pattern <:+: front ++ s := by
  induction s generalizing front with
  | nil => exact h
  | cons c s ih =>
    rw [List.flatMap_cons] at h
    obtain hplain | ⟨-, hne, hforeign⟩ := hf c
    · -- what stands as it is may belong to an occurrence, with what is in front of it
      rw [hplain, ← List.append_assoc] at h
      simpa using ih h
    · obtain ⟨x, xs, hc⟩ := List.exists_cons_of_ne_nil hne
      rw [hc, List.forall_mem_cons] at hforeign
      rw [hc, List.cons_append] at h
      obtain hfront | hbehind := infix_append_cons hforeign.1 h
      · exact hfront.trans (List.prefix_append front _).isInfix
      · have hrest : pattern <:+: [] ++ s :=
          ih (infix_of_infix_append hbehind fun a ha hmem => hforeign.2 a hmem ha)
        exact hrest.trans ⟨front ++ [c], [], by simp⟩

/-- **A text spells a pattern exactly if it does so with some of its characters escaped**, when no
escape has a character of the pattern. -/
theorem infix_flatMap_iff : pattern <:+: s.flatMap f ↔ pattern <:+: s := by
  constructor
  · intro h
    exact (infix_of_infix_append_flatMap hf h : pattern <:+: [] ++ s)
  · rintro ⟨u, v, rfl⟩
    have hself : pattern.flatMap f = pattern.flatMap fun c => [c] :=
      List.flatMap_congr fun c hc => (hf c).resolve_right fun hforeign => hforeign.1 hc
    rw [List.flatMap_append, List.flatMap_append, hself, List.flatMap_singleton']
    exact ⟨_, _, rfl⟩

end Escapes

theorem infix_literalBody_iff (directory : String) :
    placeholder <:+: literalBody directory ↔ placeholder <:+: directory.toList :=
  infix_flatMap_iff fun c => (written_escapeChar c).eq_or_foreign

/-- **The placeholder is gone from the script for a directory**, unless the directory spells it. -/
theorem infix_scriptFor_iff (directory : String) :
    placeholder <:+: (scriptFor directory).toList ↔ placeholder <:+: directory.toList := by
  have hcounts := counts_occurrences placeholder_ne_nil template
  obtain ⟨_, _, -, -, -, hreplace⟩ := hcounts.single occurrences_template
  obtain ⟨-, -, hgone⟩ := hreplace (directoryLiteral directory)
  have hu : 'u' ∉ placeholder := by simp [placeholder_eq]
  have hquote : '"' ∉ placeholder := by simp [placeholder_eq]
  rw [scriptFor, String.toList_ofList, hgone 'u' ('"' :: literalBody directory) '"' hu hquote rfl,
    ← infix_literalBody_iff]
  -- the quote in front of what the directory spells belongs to no occurrence
  refine ⟨fun h => ?_, fun h => h.trans (List.suffix_cons _ _).isInfix⟩
  obtain hnil | hbody := infix_append_cons (l := []) hquote h
  · exact absurd (List.infix_nil.mp hnil) placeholder_ne_nil
  · exact hbody

end FunctionSearch.Export
