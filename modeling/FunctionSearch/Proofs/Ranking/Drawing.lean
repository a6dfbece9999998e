import FunctionSearch.Ranking.Drawing
import FunctionSearch.Proofs.Ranking.Stable
import Mathlib.Data.List.Forall2

/-!
# Drawings are aligned

A table is drawn with its columns one below the other, whatever its cells hold.

* `sheet?` is the drawing of any table in pieces, escape sequences apart from texts. The widths are
  a list, and there is no drawing if a row asks for a width that is not there.
* `isSome_sheet?_iff`: that is so for a table of fewer than three columns once it has a row.
* `Laid` says how cells stand in a line: in columns that start at given offsets.
* `Sheet.Shows` says what is seen of a drawing, and where a row has its colour; `IsEscape` says what
  a terminal does not show.
* `draw_tableOf_aligned`: every ranking is drawn, and its drawing shows it.
-/

namespace FunctionSearch.Ranking.Drawing

/-! ## Drawings in pieces -/

/-- One thing that is written. -/
inductive Piece where
  /-- What is not seen. -/
  | escape (sequence : List Char)
  | text (content : List Char)
  deriving DecidableEq, Repr

/-- What is written for a piece. -/
def Piece.written : Piece → List Char
  | .escape sequence => sequence
  | .text content => content

/-- What is seen of a piece. -/
def Piece.seen : Piece → List Char
  | .escape _ => []
  | .text content => content

/-- What is seen of a part of a drawing. -/
def seen (script : List Piece) : List Char :=
  script.flatMap Piece.seen

/-- A drawing, one list of pieces for each row. -/
structure Sheet where
  opening : List Piece
  headings : List Piece
  rows : List (List Piece)
  closing : List Piece
  deriving DecidableEq, Repr

/-- All pieces of a drawing in order. -/
def Sheet.script (sheet : Sheet) : List Piece :=
  sheet.opening ++ sheet.headings ++ sheet.rows.flatten ++ sheet.closing

/-- The widths with the one at an index raised to that of a cell. -/
def raise? (widths : List Nat) (i : Nat) (cell : String) : Option (List Nat) :=
  widths[i]?.map fun width => widths.set i (max width (byteLength cell))

/-- The widths raised to those of a row. -/
def raiseRow? (widths : List Nat) (row : Row) : Option (List Nat) := do
  let widths ← raise? widths 0 row.binary
  let widths ← raise? widths 1 row.function
  raise? widths 2 (scoreText row)

/-- The widths of all columns of a table, the last one included. -/
def widths? (table : Table) : Option (List Nat) :=
  table.rows.foldlM raiseRow? (table.columns.map byteLength)

/-- A text in a style, in pieces. -/
def shown (s : Style) (content : List Char) : List Piece :=
  [.escape (style s), .text content, .escape (style .plain)]

/-- The end of a line. -/
def newline : Piece :=
  .text ['\n']

/-- The heading of the column with a number. In the last of `count` columns nothing fills it up. -/
def heading? (widths : List Nat) (count : Nat) (column : String × Nat) : Option (List Piece) :=
  if column.2 + 1 = count then some (shown .bold column.1.toList)
  else widths[column.2]?.map fun width => shown .bold (cell width column.1)

/-- The line of headings. -/
def headings? (widths : List Nat) (columns : List String) : Option (List Piece) :=
  (columns.zipIdx.mapM (heading? widths columns.length)).map fun cells => cells.flatten ++ [newline]

/-- The line of a row. -/
def line? (widths : List Nat) (row : Row) : Option (List Piece) := do
  let binary ← widths[0]?
  let function ← widths[1]?
  let score ← widths[2]?
  return [.text (cell binary row.binary ++ cell function row.function),
    .escape (style (.colour row.tier)), .text (cell score (scoreText row)),
    .text row.explanation.toList, .escape (style .plain), newline]

/-- What stands above the headings. -/
def opening (table : Table) (clear : Bool) : List Piece :=
  (if clear then wipe.map .escape else []) ++ shown .bold table.title.toList ++ [newline]

/-- What stands below the rows. -/
def closing (table : Table) : List Piece :=
  shown .italic table.caption.toList ++ [newline]

/-- The drawing of a table, if every width that it takes is there. -/
def sheet? (table : Table) (clear : Bool) : Option Sheet := do
  let widths ← widths? table
  let headings ← headings? widths table.columns
  let rows ← table.rows.mapM (line? widths)
  return ⟨opening table clear, headings, rows, closing table⟩

variable {table : Table} {clear : Bool}

theorem sheet?_eq {widths : List Nat} {headings : List Piece} {rows : List (List Piece)}
    (hwidths : widths? table = some widths)
    (hheadings : headings? widths table.columns = some headings)
    (hrows : table.rows.mapM (line? widths) = some rows) :
    sheet? table clear = some ⟨opening table clear, headings, rows, closing table⟩ := by
  simp [sheet?, hwidths, hheadings, hrows]

/-! ## Widths that are there -/

theorem raiseRow?_eq (a b c : Nat) (more : List Nat) (row : Row) :
    raiseRow? (a :: b :: c :: more) row =
      some (max a (byteLength row.binary) :: max b (byteLength row.function) ::
        max c (byteLength (scoreText row)) :: more) := rfl

theorem raiseRow?_eq_none {widths : List Nat} (h : widths.length < 3) (row : Row) :
    raiseRow? widths row = none := by
  match widths with
  | [] => rfl
  | [_] => rfl
  | [_, _] => rfl

/-- The rows raise the first three widths to those of their longest cells. -/
theorem foldlM_raiseRow? (rows : List Row) (a b c : Nat) (more : List Nat) :
    rows.foldlM raiseRow? (a :: b :: c :: more) =
      some (((rows.map (·.binary)).map byteLength).foldl max a ::
        ((rows.map (·.function)).map byteLength).foldl max b ::
        ((rows.map scoreText).map byteLength).foldl max c :: more) := by
  -- three widths are there at the start, and raising keeps the list as long as it is
  induction rows generalizing a b c with
  | nil => rfl
  | cons row rows ih =>
    rw [List.foldlM_cons, raiseRow?_eq]
    exact ih _ _ _

theorem widths?_eq {first second third : String} {more : List String}
    (h : table.columns = first :: second :: third :: more) :
    widths? table = some ((widths table).binary :: (widths table).function ::
      (widths table).score :: more.map byteLength) := by
  rw [widths?, h, List.map_cons, List.map_cons, List.map_cons, foldlM_raiseRow?, widths]
  simp only [heading, h, widest]
  rfl

/-- The line of a row in columns of these widths. -/
def drawnRow (w : Widths) (row : Row) : List Piece :=
  [.text (cell w.binary row.binary ++ cell w.function row.function),
    .escape (style (.colour row.tier)), .text (cell w.score (scoreText row)),
    .text row.explanation.toList, .escape (style .plain), newline]

theorem mapM_line? (w : Widths) (more : List Nat) (rows : List Row) :
    rows.mapM (line? (w.binary :: w.function :: w.score :: more)) =
      some (rows.map (drawnRow w)) :=
  List.mapM_pure

theorem exists_mapM_eq_some {α β : Type} {f : α → Option β} {l : List α}
    (h : ∀ a ∈ l, ∃ b, f a = some b) : ∃ bs, l.mapM f = some bs := by
  induction l with
  | nil => exact ⟨[], rfl⟩
  | cons a l ih =>
    obtain ⟨⟨b, hb⟩, hl⟩ := List.forall_mem_cons.mp h
    obtain ⟨bs, hbs⟩ := ih hl
    exact ⟨b :: bs, by rw [List.mapM_cons, hb, hbs]; rfl⟩

theorem exists_headings? {widths : List Nat} {columns : List String}
    (h : widths.length = columns.length) :
    ∃ headings, headings? widths columns = some headings := by
  have hall : ∀ column ∈ columns.zipIdx, ∃ pieces,
      heading? widths columns.length column = some pieces := by
    intro column hcolumn
    rw [heading?]
    split
    · exact ⟨_, rfl⟩
    · have hlt : column.2 < widths.length := h ▸ List.snd_lt_of_mem_zipIdx hcolumn
      rw [List.getElem?_eq_getElem hlt]
      exact ⟨_, rfl⟩
  obtain ⟨cells, hcells⟩ := exists_mapM_eq_some hall
  exact ⟨_, by rw [headings?, hcells]; rfl⟩

/-- **A table can be drawn unless it has a row and fewer than three columns.** -/
theorem isSome_sheet?_iff :
    (sheet? table clear).isSome = true ↔ table.rows = [] ∨ 3 ≤ table.columns.length := by
  by_cases hcolumns : 3 ≤ table.columns.length
  · refine iff_of_true ?_ (.inr hcolumns)
    obtain ⟨first, second, third, more, heq⟩ :
        ∃ first second third more, table.columns = first :: second :: third :: more := by
      match table.columns, hcolumns with
      | first :: second :: third :: more, _ => exact ⟨first, second, third, more, rfl⟩
    have hlength : ((widths table).binary :: (widths table).function :: (widths table).score ::
        more.map byteLength).length = table.columns.length := by
      rw [heq]
      simp
    obtain ⟨headings, hheadings⟩ := exists_headings? hlength
    rw [sheet?_eq (widths?_eq heq) hheadings (mapM_line? _ _ _)]
    rfl
  · cases hrows : table.rows with
    | nil =>
      refine iff_of_true ?_ (.inl rfl)
      have hwidths : widths? table = some (table.columns.map byteLength) := by
        rw [widths?, hrows]
        rfl
      have hlines : table.rows.mapM (line? (table.columns.map byteLength)) = some [] := by
        rw [hrows]
        rfl
      obtain ⟨headings, hheadings⟩ := exists_headings? (List.length_map byteLength)
      rw [sheet?_eq hwidths hheadings hlines]
      rfl
    | cons row rows =>
      refine iff_of_false ?_ (by simp [hcolumns])
      have hshort : (table.columns.map byteLength).length < 3 := by
        rw [List.length_map]
        omega
      rw [sheet?, widths?, hrows, List.foldlM_cons, raiseRow?_eq_none hshort]
      simp

/-! ## Escape sequences -/

/-- A control sequence of a terminal: numbers with semicolons between them, and the letter that says
what they are for. -/
def IsEscape (sequence : List Char) : Prop :=
  ∃ parameters final, sequence = '\x1b' :: '[' :: (parameters ++ [final]) ∧
    (∀ c ∈ parameters, c.isDigit = true ∨ c = ';') ∧ final.isAlpha = true

/-- Pieces of which only escape sequences are not seen. -/
def HidesEscapes (script : List Piece) : Prop :=
  ∀ sequence, Piece.escape sequence ∈ script → IsEscape sequence

theorem isEscape_style (s : Style) : IsEscape (style s) := by
  cases s with
  | bold => exact ⟨['1'], 'm', by decide, by decide, by decide⟩
  | italic => exact ⟨['3'], 'm', by decide, by decide, by decide⟩
  | plain => exact ⟨['0'], 'm', by decide, by decide, by decide⟩
  | colour tier =>
    refine ⟨colour tier, 'm', by cases tier <;> decide, by cases tier <;> decide, by decide⟩

theorem isEscape_of_mem_wipe {sequence : List Char} (h : sequence ∈ wipe) :
    IsEscape sequence := by
  rw [wipe, List.mem_cons, List.mem_singleton] at h
  rcases h with rfl | rfl
  · exact ⟨['2'], 'J', by decide, by decide, by decide⟩
  · exact ⟨['1', ';', '1'], 'H', by decide, by decide, by decide⟩

theorem hidesEscapes_append {script more : List Piece} (h : HidesEscapes script)
    (hmore : HidesEscapes more) : HidesEscapes (script ++ more) := fun sequence hmem =>
  (List.mem_append.mp hmem).elim (h sequence) (hmore sequence)

theorem hidesEscapes_newline : HidesEscapes [newline] := by
  simp [HidesEscapes, newline]

theorem hidesEscapes_shown (s : Style) (content : List Char) : HidesEscapes (shown s content) := by
  simp [HidesEscapes, shown, isEscape_style]

theorem hidesEscapes_opening (table : Table) (clear : Bool) :
    HidesEscapes (opening table clear) := by
  refine hidesEscapes_append (hidesEscapes_append ?_ (hidesEscapes_shown _ _)) hidesEscapes_newline
  cases clear with
  | false => simp [HidesEscapes]
  | true => simpa [HidesEscapes] using fun sequence => isEscape_of_mem_wipe

theorem hidesEscapes_drawnRow (w : Widths) (row : Row) : HidesEscapes (drawnRow w row) := by
  simp [HidesEscapes, drawnRow, newline, isEscape_style]

/-! ## Columns -/

/-- A line in which cells stand in columns: `column` characters are in front of it, the second and
all further cells start at the offsets `starts`, and between any two there are at least two spaces
and nothing else. -/
inductive Laid : (column : Nat) → (starts : List Nat) → (cells : List (List Char)) → List Char →
    Prop
  | last (column : Nat) (content : List Char) : Laid column [] [content] content
  | next {column start gap : Nat} {starts : List Nat} {content line : List Char}
      {cells : List (List Char)} (hgap : 2 ≤ gap) (hstart : column + content.length + gap = start)
      (h : Laid start starts cells line) :
      Laid column (start :: starts) (content :: cells)
        (content ++ List.replicate gap ' ' ++ line)

/-- The cells of a row, the score in decimal. -/
def cellsOf (row : Row) : List (List Char) :=
  [row.binary.toList, row.function.toList, (toString row.score).toList, row.explanation.toList]

/-- A row that is drawn with its cells in columns: its score and its explanation have the colour of
its tier, and all colours are reset in front of the end of the line. -/
structure ShowsRow (starts : List Nat) (row : Row) (pieces : List Piece) : Prop where
  exists_eq : ∃ plain coloured : List (List Char),
    pieces = plain.map .text ++ [.escape (style (.colour row.tier))] ++ coloured.map .text ++
      [.escape "\x1b[0m".toList, .text ['\n']] ∧
    Laid 0 starts (cellsOf row) (plain ++ coloured).flatten

/-- A drawing that shows a table, all but its escape sequences: the headings stand in columns, and
so do the rows, which follow in the order of the table. -/
structure Sheet.Shows (sheet : Sheet) (table : Table) (starts : List Nat) : Prop where
  escapes : HidesEscapes sheet.script
  opening : seen sheet.opening = table.title.toList ++ ['\n']
  headings : ∃ line, seen sheet.headings = line ++ ['\n'] ∧
    Laid 0 starts (table.columns.map String.toList) line
  rows : List.Forall₂ (ShowsRow starts) table.rows sheet.rows
  closing : seen sheet.closing = table.caption.toList ++ ['\n']

/-- Bytes are at least as many as characters. -/
theorem length_le_byteLength (s : String) : s.toList.length ≤ byteLength s := by
  rw [byteLength, Text.bytes, Text.Utf8.encode]
  induction s.toList with
  | nil => exact Nat.le_refl 0
  | cons c l ih =>
    have hpos : 0 < (String.utf8EncodeChar c).length :=
      String.length_utf8EncodeChar c ▸ c.utf8Size_pos
    rw [List.flatMap_cons, List.length_append, List.length_cons]
    omega

theorem le_foldl_max (widths : List Nat) (width : Nat) :
    width ≤ widths.foldl max width ∧ ∀ other ∈ widths, other ≤ widths.foldl max width := by
  induction widths generalizing width with
  | nil => exact ⟨Nat.le_refl width, fun _ h => nomatch h⟩
  | cons first widths ih =>
    obtain ⟨hstart, hmem⟩ := ih (max width first)
    rw [List.foldl_cons]
    refine ⟨Nat.le_trans (Nat.le_max_left width first) hstart,
      List.forall_mem_cons.mpr ⟨?_, hmem⟩⟩
    exact Nat.le_trans (Nat.le_max_right width first) hstart

theorem length_heading_le_widest (title : String) (cells : List String) :
    title.toList.length ≤ widest title cells :=
  Nat.le_trans (length_le_byteLength title) (le_foldl_max _ _).1

/-- **A column is wide enough for each of its cells.** -/
theorem length_le_widest {s : String} {cells : List String} (title : String) (h : s ∈ cells) :
    s.toList.length ≤ widest title cells :=
  Nat.le_trans (length_le_byteLength s) ((le_foldl_max _ _).2 _ (List.mem_map_of_mem h))

/-- Five characters of seven bytes make a column of seven characters. -/
example : widest "NAME" ["ñandú"] = 7 := by decide

/-- The offsets of the second, the third and the fourth column. -/
def Widths.starts (w : Widths) : List Nat :=
  [w.binary + 2, w.binary + 2 + (w.function + 2), w.binary + 2 + (w.function + 2) + (w.score + 2)]

theorem laid_cell {column width : Nat} {starts : List Nat} {cells : List (List Char)}
    {line : List Char} {s : String} (hwidth : s.toList.length ≤ width)
    (h : Laid (column + (width + 2)) starts cells line) :
    Laid column ((column + (width + 2)) :: starts) (s.toList :: cells) (cell width s ++ line) := by
  -- the filling and the two spaces behind it are one gap
  have hcell : cell width s =
      s.toList ++ List.replicate (width - s.toList.length + 2) ' ' := by
    rw [cell, List.append_assoc, List.replicate_add]
    rfl
  rw [hcell]
  exact .next (by omega) (by omega) h

/-- Cells that are filled up to the widths of their columns stand in columns. -/
theorem laid_cells {w : Widths} {binary function score : String} (rest : List Char)
    (hbinary : binary.toList.length ≤ w.binary) (hfunction : function.toList.length ≤ w.function)
    (hscore : score.toList.length ≤ w.score) :
    Laid 0 w.starts [binary.toList, function.toList, score.toList, rest]
      (cell w.binary binary ++ (cell w.function function ++ (cell w.score score ++ rest))) := by
  have hlaid := laid_cell hbinary (laid_cell hfunction (laid_cell hscore
    (.last (0 + (w.binary + 2) + (w.function + 2) + (w.score + 2)) rest)))
  rwa [Nat.zero_add] at hlaid

/-! ## Drawings of rankings -/

theorem scoreText_eq (row : Row) : scoreText row = toString row.score := by
  rw [Nat.toString_eq_repr, Nat.repr_eq_ofList_toDigits]
  rfl

theorem showsRow_drawnRow {row : Row} (h : row ∈ table.rows) :
    ShowsRow (widths table).starts row (drawnRow (widths table) row) where
  exists_eq := by
    refine ⟨[cell (widths table).binary row.binary ++ cell (widths table).function row.function],
      [cell (widths table).score (scoreText row), row.explanation.toList], rfl, ?_⟩
    have hlaid := laid_cells (w := widths table) row.explanation.toList
      (length_le_widest (heading table 0) (List.mem_map_of_mem h))
      (length_le_widest (heading table 1) (List.mem_map_of_mem h))
      (length_le_widest (heading table 2) (List.mem_map_of_mem h))
    rw [scoreText_eq] at hlaid
    simpa [cellsOf, scoreText_eq] using hlaid

/-- The line of four headings in columns of these widths. -/
def drawnHeadings (w : Widths) (first second third last : String) : List Piece :=
  shown .bold (cell w.binary first) ++ shown .bold (cell w.function second) ++
    shown .bold (cell w.score third) ++ shown .bold last.toList ++ [newline]

theorem headings?_eq (w : Widths) (width : Nat) (first second third last : String) :
    headings? [w.binary, w.function, w.score, width] [first, second, third, last] =
      some (drawnHeadings w first second third last) := rfl

variable {first second third last : String}

theorem seen_drawnHeadings (w : Widths) : seen (drawnHeadings w first second third last) =
    cell w.binary first ++ (cell w.function second ++ (cell w.score third ++ last.toList)) ++
      ['\n'] := by
  simp [seen, drawnHeadings, shown, newline, Piece.seen]

theorem hidesEscapes_drawnHeadings (w : Widths) :
    HidesEscapes (drawnHeadings w first second third last) := by
  refine hidesEscapes_append ?_ hidesEscapes_newline
  refine hidesEscapes_append (hidesEscapes_append (hidesEscapes_append ?_ ?_) ?_) ?_
  all_goals exact hidesEscapes_shown _ _

theorem hidesEscapes_rows (w : Widths) (rows : List Row) :
    HidesEscapes (rows.map (drawnRow w)).flatten := by
  intro sequence hmem
  obtain ⟨_, hline, hsequence⟩ := List.mem_flatten.mp hmem
  obtain ⟨row, -, rfl⟩ := List.mem_map.mp hline
  exact hidesEscapes_drawnRow w row sequence hsequence

theorem hidesEscapes_closing (table : Table) : HidesEscapes (closing table) :=
  hidesEscapes_append (hidesEscapes_shown _ _) hidesEscapes_newline

theorem seen_opening (table : Table) (clear : Bool) :
    seen (opening table clear) = table.title.toList ++ ['\n'] := by
  cases clear <;> simp [seen, opening, wipe, shown, newline, Piece.seen]

theorem seen_closing (table : Table) : seen (closing table) = table.caption.toList ++ ['\n'] := by
  simp [seen, closing, shown, newline, Piece.seen]

theorem map_written_opening (table : Table) (clear : Bool) :
    (opening table clear).map Piece.written =
      (if clear then wipe else []) ++ styled .bold table.title.toList ++ [['\n']] := by
  cases clear <;> rfl

theorem map_written_drawnHeadings (h : table.columns = [first, second, third, last]) :
    (drawnHeadings (widths table) first second third last).map Piece.written = headings table := by
  rw [headings]
  simp only [heading, h]
  rfl

theorem map_written_rows (w : Widths) (rows : List Row) :
    ((rows.map (drawnRow w)).flatten).map Piece.written = rows.flatMap (line w) := by
  rw [List.map_flatten, List.map_map, List.flatMap]
  rfl

theorem map_written_closing (table : Table) :
    (closing table).map Piece.written = styled .italic table.caption.toList ++ [['\n']] := rfl

/-- A table with four columns is drawn, piece by piece what is written for it, and the drawing
shows it. -/
theorem exists_sheet (clear : Bool) (h : table.columns = [first, second, third, last]) :
    ∃ sheet, sheet? table clear = some sheet ∧
      sheet.script.map Piece.written = pieces table clear ∧
      sheet.Shows table (widths table).starts := by
  have hwidths := widths?_eq h
  have hheadings := headings?_eq (widths table) (byteLength last) first second third last
  rw [← h] at hheadings
  refine ⟨_, sheet?_eq hwidths hheadings (mapM_line? _ _ _), ?_, ?_⟩
  · rw [Sheet.script, List.map_append, List.map_append, List.map_append, map_written_opening,
      map_written_drawnHeadings h, map_written_rows, map_written_closing, pieces,
      ← List.append_assoc]
  · refine ⟨?_, seen_opening table clear, ⟨_, seen_drawnHeadings _, ?_⟩, ?_, seen_closing table⟩
    · exact hidesEscapes_append (hidesEscapes_append (hidesEscapes_append
        (hidesEscapes_opening table clear) (hidesEscapes_drawnHeadings _))
        (hidesEscapes_rows _ _)) (hidesEscapes_closing table)
    · rw [h]
      have hfirst : first = heading table 0 := by simp [heading, h]
      have hsecond : second = heading table 1 := by simp [heading, h]
      have hthird : third = heading table 2 := by simp [heading, h]
      refine laid_cells last.toList ?_ ?_ ?_
      · exact hfirst ▸ length_heading_le_widest _ _
      · exact hsecond ▸ length_heading_le_widest _ _
      · exact hthird ▸ length_heading_le_widest _ _
    · rw [List.forall₂_map_right_iff, List.forall₂_same]
      exact fun row hrow => showsRow_drawnRow hrow

/-- The colours of two tiers differ. -/
theorem style_colour_injective : Function.Injective fun tier => style (.colour tier) := by
  intro a b h
  cases a <;> cases b <;> first | rfl | exact absurd h (by decide)

/-- **The drawing of a ranking is aligned.** Whatever the results are called, the table has a row
for each of them and every width that is asked for is there, and what is written is a drawing that
shows the table: with its escape sequences taken away, each column starts at one offset in the
headings and in all rows, which follow in the order of the table, and each row has the colour of its
tier, which no other tier has, until its line ends. -/
theorem draw_tableOf_aligned (description : String) (results : List ScoredFunction)
    (clear : Bool) :
    ((tableOf description results).rows.map Row.result).Perm results ∧
      ∃ sheet starts, sheet? (tableOf description results) clear = some sheet ∧
        draw (tableOf description results) clear =
          String.ofList (sheet.script.flatMap Piece.written) ∧
        sheet.Shows (tableOf description results) starts ∧
        Function.Injective fun tier => style (.colour tier) := by
  obtain ⟨sheet, hsheet, hwritten, hshows⟩ :=
    exists_sheet clear (rfl : (tableOf description results).columns = columns)
  refine ⟨?_, sheet, _, hsheet, ?_, hshows, style_colour_injective⟩
  · rw [map_result_rows]
    exact sorted_perm results
  · rw [draw, ← hwritten, List.flatMap]

end FunctionSearch.Ranking.Drawing
