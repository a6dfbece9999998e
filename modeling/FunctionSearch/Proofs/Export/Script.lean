import FunctionSearch.Proofs.Export.Literal
import FunctionSearch.Proofs.Text.Lines
import FunctionSearch.Proofs.Text.Search
import FunctionSearch.Proofs.Text.Utf8

/-!
# Rendered scripts

The script for a directory is the template with the directory's literal in the place of its only
placeholder.

* The template is a header, one line with the placeholder, and a footer (`template_eq`). The
  placeholder stands there only (`eq_of_template_eq_append`), so `scriptFor` fills that line
  (`toList_scriptFor`) and never looks into what it has put there.
* `Fills` says that a text is the template with one of its lines filled, and `Denotes` that the
  inside of a literal is read as a directory and cannot be left early.
* The script for a directory fills the template with a literal that denotes the directory. For a
  path that is no text there is no script and nothing is written (`script_fills_or_notUtf8`).
-/

namespace FunctionSearch.Export

open Text

/-! ## The template -/

/-- The lines above the one with the placeholder. -/
def headerLines : List (List Char) :=
  (templateLines.take 15).map String.toList

/-- What stands in front of the placeholder in its line. -/
def assignment : List Char :=
  "OUTPUT_DIRECTORY = ".toList

/-- The lines below the one with the placeholder. -/
def footerLines : List (List Char) :=
  (templateLines.drop 16).map String.toList

/-- The lines of the template with another text in the place of the placeholder. -/
def linesWith (literal : List Char) : List (List Char) :=
  headerLines ++ (assignment ++ literal) :: footerLines

theorem template_eq : template = endLines (linesWith placeholder) := by
  have hline : templateLines[15].toList = assignment ++ placeholder :=
    (congrArg String.toList (by decide)).trans String.toList_append
  have hlines : linesWith placeholder = templateLines.map String.toList := by
    rw [linesWith, ← hline]
    rfl
  rw [hlines, endLines, List.flatMap_map]
  rfl

theorem placeholder_eq :
    placeholder = ['{', '{', 'O', 'U', 'T', 'P', 'U', 'T', '_', 'D', 'I', 'R', '}', '}'] := by
  decide

theorem assignment_eq : assignment = ['O', 'U', 'T', 'P', 'U', 'T', '_', 'D', 'I', 'R', 'E', 'C',
    'T', 'O', 'R', 'Y', ' ', '=', ' '] := by
  decide

/-- A line without a line break in which no brace stands next to another one. -/
structure IsInert (line : List Char) : Prop where
  isLine : IsLine line
  noBraces : ¬ ['{', '{'] <:+: line

instance (line : List Char) : Decidable (IsInert line) :=
  decidable_of_iff (('\n' ∉ line ∧ line.getLast? ≠ some '\r') ∧ ¬ ['{', '{'] <:+: line)
    ⟨fun h => ⟨h.1, h.2⟩, fun h => ⟨h.1, h.2⟩⟩

theorem IsInert.toList_ofList {line : List Char} (h : IsInert line) :
    IsInert (String.ofList line).toList := by
  rwa [String.toList_ofList]

theorem isInert_of_mem_headerLines : ∀ line ∈ headerLines, IsInert line := by
  rw [headerLines, List.forall_mem_map]
  simp only [templateLines, List.take_succ_cons, List.take_zero, List.forall_mem_cons]
  repeat' apply And.intro
  all_goals first | exact IsInert.toList_ofList (by decide +kernel) | exact List.forall_mem_nil _

theorem isInert_of_mem_footerLines : ∀ line ∈ footerLines, IsInert line := by
  rw [footerLines, List.forall_mem_map]
  simp only [templateLines, List.drop_succ_cons, List.drop_zero, List.forall_mem_cons]
  repeat' apply And.intro
  all_goals first | exact IsInert.toList_ofList (by decide +kernel) | exact List.forall_mem_nil _

theorem lineFeed_notMem_placeholder : '\n' ∉ placeholder := by
  simp [placeholder_eq]

/-- No occurrence of the placeholder begins in inert lines. -/
theorem infix_of_infix_endLines_append {ls : List (List Char)} {tail : List Char}
    (h : ∀ line ∈ ls, IsInert line) (hocc : placeholder <:+: endLines ls ++ tail) :
    placeholder <:+: tail := by
  rcases infix_endLines_append lineFeed_notMem_placeholder hocc with ⟨line, hline, hl⟩ | htail
  · have hbraces : ['{', '{'] <:+: placeholder := by rw [placeholder_eq]; decide
    exact absurd (hbraces.trans hl) (h line hline).noBraces
  · exact htail

/-- What stands in front of the placeholder. -/
def beforePlaceholder : List Char :=
  endLines headerLines ++ assignment

/-- What stands behind the placeholder. -/
def behindPlaceholder : List Char :=
  '\n' :: endLines footerLines

theorem endLines_linesWith (literal : List Char) :
    endLines (linesWith literal) = beforePlaceholder ++ literal ++ behindPlaceholder := by
  simp [linesWith, beforePlaceholder, behindPlaceholder]

theorem template_eq_append : template = beforePlaceholder ++ placeholder ++ behindPlaceholder := by
  rw [template_eq, endLines_linesWith]

/-- **The template has one placeholder.** -/
theorem eq_of_template_eq_append {before behind : List Char}
    (h : template = before ++ placeholder ++ behind) :
    before = beforePlaceholder ∧ behind = behindPlaceholder := by
  refine eq_and_eq_of_not_infix ?_ ?_ (h.symm.trans template_eq_append)
  · intro hocc
    rw [beforePlaceholder, List.append_assoc] at hocc
    have hline := infix_of_infix_endLines_append isInert_of_mem_headerLines hocc
    rw [assignment_eq, placeholder_eq] at hline
    revert hline
    decide
  · intro hocc
    rcases infix_append_cons lineFeed_notMem_placeholder hocc with htail | hfooter
    · have := htail.length_le
      simp [placeholder_eq] at this
    · rw [← List.append_nil (endLines _)] at hfooter
      have hnil := infix_of_infix_endLines_append isInert_of_mem_footerLines hfooter
      simp [placeholder_eq] at hnil

theorem isFirstSplit_template :
    IsFirstSplit placeholder template beforePlaceholder behindPlaceholder :=
  ⟨template_eq_append, fun _ _ h => (eq_of_template_eq_append h).1 ▸ le_rfl⟩

/-! ## Rendering -/

theorem toList_scriptFor (directory : String) :
    (scriptFor directory).toList =
      beforePlaceholder ++ directoryLiteral directory ++ behindPlaceholder := by
  rw [scriptFor, String.toList_ofList, isFirstSplit_template.replaceFirst_eq]

theorem isLine_assignment_append {literal : List Char} (h : ∀ c ∈ literal, 0x20 ≤ c.toNat) :
    IsLine (assignment ++ literal) := by
  have hprint : ∀ c ∈ assignment ++ literal, 0x20 ≤ c.toNat := by
    rw [List.forall_mem_append]
    exact ⟨by simp [assignment_eq], h⟩
  refine ⟨fun hfeed => absurd (hprint _ hfeed) (by decide), fun hreturn => ?_⟩
  exact absurd (hprint _ (List.mem_of_getLast? hreturn)) (by decide)

/-- **Filling the placeholder with a text without control characters changes one line.** -/
theorem lines_endLines_linesWith {literal : List Char} (h : ∀ c ∈ literal, 0x20 ≤ c.toNat) :
    lines (endLines (linesWith literal)) = linesWith literal := by
  refine lines_endLines fun line hline => ?_
  rcases List.mem_append.mp hline with hheader | hline
  · exact (isInert_of_mem_headerLines line hheader).isLine
  · rcases List.mem_cons.mp hline with rfl | hfooter
    · exact isLine_assignment_append h
    · exact (isInert_of_mem_footerLines line hfooter).isLine

/-- The inside of a unicode literal that denotes `directory`, and out of which nothing breaks. -/
structure Denotes (body : List Char) (directory : String) : Prop where
  noBareQuote : hasBareQuote body = false
  noControl : ∀ c ∈ body, 0x20 ≤ c.toNat
  read : readLiteral? body = some directory.toList

/-- `text` is the template with `literal` in the place of its only placeholder, and differs from it
in that line only. -/
structure Fills (literal text : List Char) : Prop where
  placed : ∃ before behind, text = before ++ literal ++ behind ∧
    ∀ p q, template = p ++ placeholder ++ q ↔ p = before ∧ q = behind
  oneLine : ∃ i front, (lines template)[i]? = some (front ++ placeholder) ∧
    lines text = (lines template).set i (front ++ literal)

theorem denotes_literalBody (directory : String) : Denotes (literalBody directory) directory where
  noBareQuote := hasBareQuote_literalBody directory
  noControl _ := le_toNat_of_mem_literalBody
  read := readLiteral?_literalBody directory

theorem fills_of_printable {literal : List Char} (h : ∀ c ∈ literal, 0x20 ≤ c.toNat) :
    Fills literal (beforePlaceholder ++ literal ++ behindPlaceholder) where
  placed := by
    refine ⟨_, _, rfl, fun p q => ⟨eq_of_template_eq_append, ?_⟩⟩
    rintro ⟨rfl, rfl⟩
    exact template_eq_append
  oneLine := by
    have hprint : ∀ c ∈ placeholder, 0x20 ≤ c.toNat := by simp [placeholder_eq]
    rw [← endLines_linesWith, lines_endLines_linesWith h, template_eq,
      lines_endLines_linesWith hprint]
    exact ⟨headerLines.length, assignment, by simp [linesWith], by simp [linesWith]⟩

theorem le_toNat_of_mem_directoryLiteral {directory : String} :
    ∀ c ∈ directoryLiteral directory, 0x20 ≤ c.toNat := by
  rw [directoryLiteral_eq]
  simp only [List.forall_mem_cons, List.forall_mem_append]
  exact ⟨by decide, by decide, fun _ => le_toNat_of_mem_literalBody, by decide, by simp⟩

theorem script_ofString (directory : String) :
    script (.ofString directory) = .ok (scriptFor directory) := by
  have htext : (Path.ofString directory).text? = some directory := strict?_eq_some_iff.mpr rfl
  rw [script, htext]

theorem script_eq_notUtf8 {output : Path} (h : ∀ directory, output ≠ .ofString directory) :
    script output = .error (.notUtf8 output) := by
  have htext : output.text? = none :=
    strict?_eq_none_iff.mpr fun directory hbytes => h directory (congrArg Path.mk hbytes)
  rw [script, htext]

/-- **The script for a directory is the template with a literal that denotes the directory** in the
place of its placeholder. For a path that is no text there is no script, and the attempt to write
one leaves the tree as it was. -/
theorem script_fills_or_notUtf8 :
    (∀ directory : String, ∃ text body, script (.ofString directory) = .ok text ∧
      Denotes body directory ∧ Fills ('u' :: '"' :: (body ++ ['"'])) text.toList) ∧
    (∀ output : Path, (∀ directory, output ≠ .ofString directory) →
      script output = .error (.notUtf8 output) ∧
      ∀ tree folder, putScript tree folder output = (.error (.notUtf8 output), tree) ∧
        writeScript tree folder output = .error (.notUtf8 output)) := by
  refine ⟨fun directory => ?_, fun output h => ⟨script_eq_notUtf8 h, fun tree folder => ?_⟩⟩
  · refine ⟨_, literalBody directory, script_ofString directory, denotes_literalBody directory, ?_⟩
    rw [toList_scriptFor, ← directoryLiteral_eq]
    exact fills_of_printable le_toNat_of_mem_directoryLiteral
  · have hput : putScript tree folder output = (.error (.notUtf8 output), tree) := by
      rw [putScript, script_eq_notUtf8 h]
    exact ⟨hput, by rw [writeScript, hput]⟩

/-- A directory that spells the placeholder, and a path that is no text. -/
theorem script_fills_or_notUtf8_placeholder :
    (∃ text body, script (.ofString "\x7b\x7bOUTPUT_DIR\x7d\x7d\"\\\n") = .ok text ∧
      Denotes body "\x7b\x7bOUTPUT_DIR\x7d\x7d\"\\\n" ∧
      Fills ('u' :: '"' :: (body ++ ['"'])) text.toList) ∧
    script ⟨[0x2F, 0xFF]⟩ = .error (.notUtf8 ⟨[0x2F, 0xFF]⟩) := by
  have hbytes : ∀ directory, (⟨[0x2F, 0xFF]⟩ : Path) ≠ .ofString directory := fun directory h =>
    strict?_eq_none_iff.mp (by decide +kernel) directory (congrArg Path.bytes h)
  exact ⟨script_fills_or_notUtf8.1 _, (script_fills_or_notUtf8.2 _ hbytes).1⟩

end FunctionSearch.Export
