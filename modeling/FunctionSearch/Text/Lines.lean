import FunctionSearch.Text.Blank

/-!
# Lines

A line ends at a line feed, or at a carriage return and a line feed together; what follows the
last line feed is a line of its own unless it is empty.

* `lines`: the lines of a text, without their ends;
* `unlines`: lines put together again with a line feed between any two.
-/

namespace FunctionSearch.Text

/-- A line that a line feed ended, less a carriage return in front of that line feed. -/
def dropReturn (line : List Char) : List Char :=
  if line.getLast? = some '\r' then line.dropLast else line

/-- The lines of a text. A carriage return at the very end of a text ends no line and stays. -/
def lines (s : List Char) : List (List Char) :=
  let pieces := splitWhere (· == '\n') s
  pieces.dropLast.map dropReturn ++ (pieces.getLast?.toList.filter (!·.isEmpty))

/-- Lines joined by line feeds. -/
def unlines (ls : List (List Char)) : List Char :=
  (ls.intersperse ['\n']).flatten

end FunctionSearch.Text
