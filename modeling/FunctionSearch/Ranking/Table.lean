import FunctionSearch.Artifact.Corpus
import FunctionSearch.Ranking.Tier
import FunctionSearch.Ranking.Title

/-!
# Rankings

Scored functions in the order of arrival, and the table made of them each time it is shown.

* `ScoredFunction`: a function with its score and the reason for it;
* `Ranking.Table` and `Ranking.tableOf`: results by falling score, equal scores in the order of
  arrival, each row in its tier against the highest score;
* `Ranking` and `Ranking.push`: the results of one search so far.

A tier is a matter of the table and never flows back into the results.
-/

namespace FunctionSearch

/-- The highest score that a verdict may give. -/
def maxScore : Nat := 10

/-- A function with its score. -/
structure ScoredFunction where
  binary : String
  function : String
  score : Nat
  explanation : String
  deriving DecidableEq, Repr

/-- The result for a function: a score of zero carries no explanation. -/
def ScoredFunction.ofVerdict (record : FunctionRecord) (score : Nat) (explanation : String) :
    ScoredFunction :=
  ⟨record.binary, record.function, score, if score = 0 then "" else explanation⟩

namespace Ranking

/-- A row of a table. -/
structure Row where
  binary : String
  function : String
  score : Nat
  explanation : String
  tier : Tier
  deriving DecidableEq, Repr

/-- What a display shows. -/
structure Table where
  title : String
  caption : String
  columns : List String
  highest : Nat
  rows : List Row
  deriving DecidableEq, Repr

/-- The line under every table. -/
def caption : String := "Monocle"

/-- The headings of every table. -/
def columns : List String := ["BINARY NAME", "FUNCTION NAME", "SCORE", "EXPLANATION"]

/-- The results by falling score, equal scores in the order of arrival. -/
def sorted (results : List ScoredFunction) : List ScoredFunction :=
  results.mergeSort fun a b => decide (b.score ≤ a.score)

/-- The row of a result when `highest` is the highest score. -/
def rowOf (highest : Nat) (result : ScoredFunction) : Row :=
  ⟨result.binary, result.function, result.score, result.explanation,
    Tier.classify result.score highest⟩

/-- The result that a row shows. -/
def Row.result (row : Row) : ScoredFunction :=
  ⟨row.binary, row.function, row.score, row.explanation⟩

/-- The highest score of results that are sorted. -/
def highestOf (sorted : List ScoredFunction) : Nat :=
  (sorted.head?.map (·.score)).getD 0

/-- The table of results under a description. -/
def tableOf (description : String) (results : List ScoredFunction) : Table :=
  let ordered := sorted results
  let highest := highestOf ordered
  ⟨title description, caption, columns, highest, ordered.map (rowOf highest)⟩

end Ranking

/-- The results of one search so far, in the order of arrival. -/
structure Ranking where
  description : String
  results : List ScoredFunction
  deriving DecidableEq, Repr

namespace Ranking

/-- A search without results. -/
def empty (description : String) : Ranking :=
  ⟨description, []⟩

/-- The current table. -/
def table (ranking : Ranking) : Table :=
  tableOf ranking.description ranking.results

/-- The ranking with one more result. -/
def push (ranking : Ranking) (result : ScoredFunction) : Ranking :=
  { ranking with results := ranking.results ++ [result] }

end Ranking

end FunctionSearch
