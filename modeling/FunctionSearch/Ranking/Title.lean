import FunctionSearch.Text.Blank
import FunctionSearch.Text.Case

/-!
# Titles

A description as a heading: its words with one space between any two, each starting in upper case
and going on in lower case.
-/

namespace FunctionSearch.Ranking

/-- A word with its first character in upper case and the others in lower case. -/
def capitalize : List Char → List Char
  | [] => []
  | c :: word => Text.upper c ++ word.flatMap Text.lower

/-- The heading for a description. -/
def title (description : String) : String :=
  String.ofList (((Text.words description.toList).map capitalize).intersperse [' ']).flatten

end FunctionSearch.Ranking
