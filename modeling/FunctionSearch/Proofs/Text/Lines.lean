import FunctionSearch.Proofs.Text.Pieces
import FunctionSearch.Text.Lines
import Mathlib.Data.List.Infix

/-!
# Lines put together

A line feed ends the first line of a text (`lines_append_feed`), and a text without line feed is one
line, or none (`lines_of_feed_notMem`). So the text in which every line ends in a line feed
(`endLines`) has exactly these lines (`lines_endLines`), and what occurs in it without a line break
occurs in one of them (`infix_endLines_append`). No line of any text holds a line feed
(`feed_notMem_of_mem_lines`).

`Lined` is the grammar of lines, by which every text has the lines that it is split into and no
others (`lines_eq_iff`). A line feed anywhere in a text parts its lines
(`lines_append_feed_append`).
-/

namespace FunctionSearch.Text

/-- A text that can be a line: no line feed ends it early, and no carriage return at its end would
be taken for a part of the line's end. -/
def IsLine (line : List Char) : Prop :=
  '\n' ∉ line ∧ line.getLast? ≠ some '\r'

/-- Lines with a line feed behind each. -/
def endLines (ls : List (List Char)) : List Char :=
  ls.flatMap (· ++ ['\n'])

@[simp] theorem endLines_nil : endLines [] = [] := rfl

@[simp] theorem endLines_cons (line : List Char) (ls : List (List Char)) :
    endLines (line :: ls) = line ++ '\n' :: endLines ls := by
  simp [endLines]

@[simp] theorem endLines_append (ls ms : List (List Char)) :
    endLines (ls ++ ms) = endLines ls ++ endLines ms :=
  List.flatMap_append

theorem beq_feed_eq_false {s : List Char} (h : '\n' ∉ s) : ∀ c ∈ s, (c == '\n') = false :=
  fun _ hc => beq_false_of_ne fun heq => h (heq ▸ hc)

/-- **A line feed ends the first line of a text.** -/
theorem lines_append_feed {line : List Char} (h : '\n' ∉ line) (s : List Char) :
    lines (line ++ '\n' :: s) = dropReturn line :: lines s := by
  have hpieces := List.splitOnP_append_cons_of_forall_mem (beq_feed_eq_false h) '\n'
    (beq_self_eq_true '\n') s
  have hne : s.splitOnP (· == '\n') ≠ [] := List.splitOnP_ne_nil _ s
  simp only [lines, splitWhere_eq_splitOnP]
  rw [hpieces, List.dropLast_cons_of_ne_nil hne, List.getLast?_cons_of_ne_nil hne]
  rfl

/-- **A text without line feed is one line**, unless it is empty. -/
theorem lines_of_feed_notMem {s : List Char} (h : '\n' ∉ s) :
    lines s = if s = [] then [] else [s] := by
  rw [lines, splitWhere_eq_splitOnP, List.splitOnP_eq_singleton (beq_feed_eq_false h)]
  cases s <;> rfl

theorem IsLine.dropReturn_eq {line : List Char} (h : IsLine line) : dropReturn line = line :=
  if_neg h.2

/-- **The lines of a text are the ones it was put together from.** -/
theorem lines_endLines {ls : List (List Char)} (h : ∀ line ∈ ls, IsLine line) :
    lines (endLines ls) = ls := by
  induction ls with
  | nil => rfl
  | cons line ls ih =>
    obtain ⟨hline, hls⟩ := List.forall_mem_cons.mp h
    rw [endLines_cons, lines_append_feed hline.1, hline.dropReturn_eq, ih hls]

/-- The first line of a text begins as the text does, unless the text begins with what may end a
line. -/
theorem exists_headD_lines {c : Char} (hfeed : c ≠ '\n') (hreturn : c ≠ '\r') (s : List Char) :
    ∃ rest, (lines (c :: s)).headD [] = c :: rest := by
  by_cases h : '\n' ∈ c :: s
  · obtain ⟨line, rest, hsplit, hline⟩ := List.eq_append_cons_of_mem h
    cases line with
    | nil => exact absurd (List.cons.inj hsplit).1 hfeed
    | cons d line =>
      obtain rfl : c = d := (List.cons.inj hsplit).1
      rw [hsplit, lines_append_feed hline, List.headD_cons, dropReturn]
      split
      next hlast =>
        cases line with
        | nil => exact absurd (Option.some.inj hlast) hreturn
        | cons e line => exact ⟨_, rfl⟩
      · exact ⟨line, rfl⟩
  · rw [lines_of_feed_notMem h]
    exact ⟨s, rfl⟩

/-- **No line holds a line feed.** -/
theorem feed_notMem_of_mem_lines {s line : List Char} (h : line ∈ lines s) : '\n' ∉ line := by
  have hpiece : ∀ piece ∈ splitWhere (· == '\n') s, '\n' ∉ piece := fun piece hpiece hfeed => by
    cases eq_false_of_mem_splitWhere hpiece hfeed
  obtain hended | hlast := List.mem_append.mp h
  · obtain ⟨piece, hmem, rfl⟩ := List.mem_map.mp hended
    have hfeed := hpiece piece (List.mem_of_mem_dropLast hmem)
    rw [dropReturn]
    split
    · exact fun hmem => hfeed (List.mem_of_mem_dropLast hmem)
    · exact hfeed
  · exact hpiece line (List.mem_of_getLast? (Option.mem_toList.mp (List.mem_of_mem_filter hlast)))

/-! ## The grammar of lines -/

/-- The lines of a text. Each ends in a line feed, or in a carriage return and a line feed together,
and the last one may also end with the text. -/
inductive Lined : List Char → List (List Char) → Prop
  | nil : Lined [] []
  | last {line : List Char} (hne : line ≠ []) (hfeed : '\n' ∉ line) : Lined line [line]
  | feed {line rest : List Char} {ls : List (List Char)} (hline : IsLine line)
    (hrest : Lined rest ls) : Lined (line ++ '\n' :: rest) (line :: ls)
  | returnFeed {line rest : List Char} {ls : List (List Char)} (hfeed : '\n' ∉ line)
    (hrest : Lined rest ls) : Lined (line ++ '\r' :: '\n' :: rest) (line :: ls)

/-- Whether a carriage return stands in front of a line feed or not, a line ends there. -/
theorem Lined.dropReturn {line rest : List Char} {ls : List (List Char)} (hfeed : '\n' ∉ line)
    (hrest : Lined rest ls) : Lined (line ++ '\n' :: rest) (dropReturn line :: ls) := by
  rw [Text.dropReturn]
  split
  next hlast =>
    obtain ⟨front, rfl⟩ := List.getLast?_eq_some_iff.mp hlast
    rw [List.dropLast_concat, List.append_assoc, List.singleton_append]
    exact .returnFeed (fun hmem => hfeed (List.mem_append_left _ hmem)) hrest
  next hlast => exact .feed ⟨hfeed, hlast⟩ hrest

theorem lined_lines (s : List Char) : Lined s (lines s) := by
  induction hlength : s.length using Nat.strong_induction_on generalizing s with
  | _ length ih =>
    by_cases h : '\n' ∈ s
    · obtain ⟨line, rest, rfl, hline⟩ := List.eq_append_cons_of_mem h
      rw [List.length_append, List.length_cons] at hlength
      rw [lines_append_feed hline]
      exact .dropReturn hline (ih _ (by omega) rest rfl)
    · rw [lines_of_feed_notMem h]
      split
      next hnil => exact hnil ▸ .nil
      next hne => exact .last hne h

/-- **A text is split into the lines that it has.** -/
theorem lines_eq_iff {s : List Char} {ls : List (List Char)} : lines s = ls ↔ Lined s ls := by
  refine ⟨fun h => h ▸ lined_lines s, fun h => ?_⟩
  induction h with
  | nil => rfl
  | last hne hfeed => rw [lines_of_feed_notMem hfeed, if_neg hne]
  | feed hline _ ih => rw [lines_append_feed hline.1, hline.dropReturn_eq, ih]
  | @returnFeed line rest ls hfeed _ ih =>
    have hfeed' : '\n' ∉ line ++ ['\r'] := by simp [hfeed]
    have happend := lines_append_feed hfeed' rest
    rw [List.append_assoc, List.singleton_append] at happend
    rw [happend, ih, Text.dropReturn, if_pos List.getLast?_concat, List.dropLast_concat]

/-- **A line feed parts the lines of a text.** -/
theorem lines_append_feed_append (s t : List Char) :
    lines (s ++ '\n' :: t) = lines (s ++ ['\n']) ++ lines t := by
  induction hlength : s.length using Nat.strong_induction_on generalizing s with
  | _ length ih =>
    by_cases h : '\n' ∈ s
    · obtain ⟨line, rest, rfl, hline⟩ := List.eq_append_cons_of_mem h
      rw [List.length_append, List.length_cons] at hlength
      simp only [List.append_assoc, List.cons_append]
      rw [lines_append_feed hline, lines_append_feed hline, ih _ (by omega) rest rfl,
        List.cons_append]
    · rw [lines_append_feed h, lines_append_feed h]
      rfl

/-! ## Patterns without line breaks -/

/-- What occurs in a text without a separator of it occurs on one side of the separator. -/
theorem infix_append_cons {α : Type} {pattern l r : List α} {a : α} (ha : a ∉ pattern)
    (h : pattern <:+: l ++ a :: r) : pattern <:+: l ∨ pattern <:+: r := by
  obtain ⟨p, q, hpq⟩ := h
  rcases List.append_eq_append_iff.mp hpq with ⟨t, rfl, -⟩ | ⟨t, ht, hq⟩
  · exact .inl ⟨p, t, rfl⟩
  · cases t with
    | nil => exact .inl ⟨p, [], by simpa using ht⟩
    | cons b t =>
      obtain ⟨rfl, rfl⟩ : a = b ∧ r = t ++ q := by simpa using hq
      -- the occurrence ends behind the separator, so it begins behind it as well
      rcases List.append_eq_append_iff.mp ht with ⟨s, -, hs⟩ | ⟨s, rfl, hs⟩
      · exact absurd (by simp [hs]) ha
      · cases s with
        | nil => exact absurd (hs ▸ List.mem_cons_self : a ∈ [] ++ pattern) ha
        | cons c s =>
          obtain ⟨-, rfl⟩ : a = c ∧ t = s ++ pattern := by simpa using hs
          exact .inr ⟨s, q, by simp⟩

/-- **What occurs in lines put together, without a line feed, occurs in one of them** or in the text
behind them. -/
theorem infix_endLines_append {pattern tail : List Char} {ls : List (List Char)}
    (hfeed : '\n' ∉ pattern) (h : pattern <:+: endLines ls ++ tail) :
    (∃ line ∈ ls, pattern <:+: line) ∨ pattern <:+: tail := by
  induction ls with
  | nil => exact .inr h
  | cons line ls ih =>
    rw [endLines_cons, List.append_assoc, List.cons_append] at h
    rcases infix_append_cons hfeed h with hline | hrest
    · exact .inl ⟨line, by simp, hline⟩
    · refine (ih hrest).imp_left fun ⟨l, hl, hocc⟩ => ⟨l, by simp [hl], hocc⟩

end FunctionSearch.Text
