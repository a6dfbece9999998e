import FunctionSearch.Ranking.Table
import FunctionSearch.Text.Utf8

/-!
# Drawings

A table on a terminal: a bold title, bold headings, a line for every row with its score and
explanation in the colour of its tier, and the caption in italics.

* `Drawing.style`: the escape sequences;
* `Drawing.widths`: a column is as wide as the longest of its cells in bytes;
* `Drawing.cell`: a cell is filled up to that many characters, and two spaces end it;
* `Drawing.pieces` and `Drawing.draw`: what is written, in order.
-/

namespace FunctionSearch.Ranking.Drawing

/-! ## Styles -/

/-- How text is shown. -/
inductive Style where
  | bold
  | italic
  | plain
  | colour (tier : Tier)
  deriving DecidableEq, Repr

/-- The colour of a tier: green, orange or red. -/
def colour : Tier → List Char
  | .top => "38;5;10".toList
  | .mid => "38;2;255;175;0".toList
  | .low => "38;5;9".toList

/-- The name of the colour of a tier. -/
def colourName : Tier → String
  | .top => "Green"
  | .mid => "Rgb \x7b r: 255, g: 175, b: 0 \x7d"
  | .low => "Red"

/-- The escape sequence that switches to a style. -/
def style : Style → List Char
  | .bold => "\x1b[1m".toList
  | .italic => "\x1b[3m".toList
  | .plain => "\x1b[0m".toList
  | .colour tier => "\x1b[".toList ++ colour tier ++ ['m']

/-- Wipe the screen and go to its first corner. -/
def wipe : List (List Char) :=
  ["\x1b[2J".toList, "\x1b[1;1H".toList]

/-! ## Layout -/

/-- The number of bytes of a text. -/
def byteLength (s : String) : Nat :=
  (Text.bytes s).length

/-- The widths of the first three columns. -/
structure Widths where
  binary : Nat
  function : Nat
  score : Nat
  deriving DecidableEq, Repr

/-- The width of a column: the longest of its heading and its cells, in bytes. -/
def widest (heading : String) (cells : List String) : Nat :=
  (cells.map byteLength).foldl max (byteLength heading)

/-- The digits of a score. -/
def scoreText (row : Row) : String :=
  String.ofList (Number.numeral row.score)

/-- The heading of the column with this number. -/
def heading (table : Table) (i : Nat) : String :=
  table.columns.getD i ""

/-- The widths of a table's columns. -/
def widths (table : Table) : Widths :=
  { binary := widest (heading table 0) (table.rows.map (·.binary))
    function := widest (heading table 1) (table.rows.map (·.function))
    score := widest (heading table 2) (table.rows.map scoreText) }

/-- A text filled up with spaces to a number of characters, and two spaces behind it. -/
def cell (width : Nat) (s : String) : List Char :=
  s.toList ++ List.replicate (width - s.toList.length) ' ' ++ [' ', ' ']

/-! ## Drawing -/

/-- Text in a style, and the end of the style. -/
def styled (s : Style) (text : List Char) : List (List Char) :=
  [style s, text, style .plain]

/-- The line of headings. -/
def headings (table : Table) : List (List Char) :=
  let w := widths table
  styled .bold (cell w.binary (heading table 0)) ++
    styled .bold (cell w.function (heading table 1)) ++
    styled .bold (cell w.score (heading table 2)) ++ styled .bold (heading table 3).toList ++
    [['\n']]

/-- The line of a row. -/
def line (w : Widths) (row : Row) : List (List Char) :=
  [cell w.binary row.binary ++ cell w.function row.function, style (.colour row.tier),
    cell w.score (scoreText row), row.explanation.toList, style .plain, ['\n']]

/-- Everything that is written for a table, in order. -/
def pieces (table : Table) (clear : Bool) : List (List Char) :=
  (if clear then wipe else []) ++ styled .bold table.title.toList ++ [['\n']] ++ headings table ++
    table.rows.flatMap (line (widths table)) ++ styled .italic table.caption.toList ++ [['\n']]

/-- A table as text for a terminal, the screen wiped before if `clear` says so. -/
def draw (table : Table) (clear : Bool) : String :=
  String.ofList (pieces table clear).flatten

/-- The number of pieces that are tried on a display that takes `accepted` of them: the first
failure ends the drawing. -/
def tries (table : Table) (clear : Bool) (accepted : Nat) : Nat :=
  min (accepted + 1) (pieces table clear).length

end FunctionSearch.Ranking.Drawing
