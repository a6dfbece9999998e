import FunctionSearch.Document.Json
import FunctionSearch.Ranking.Table

/-!
# Records as documents

Functions, results and tables as JSON, and functions, results and tiers read from a document.
-/

namespace FunctionSearch

open Document

/-! ## Writing -/

/-- A function as a document. -/
def FunctionRecord.toJson (record : FunctionRecord) : Json :=
  .record [("binary_name", .text record.binary), ("function_name", .text record.function),
    ("code", .text record.code)]

/-- A result as a document. -/
def ScoredFunction.toJson (result : ScoredFunction) : Json :=
  .record [("binary_name", .text result.binary), ("function_name", .text result.function),
    ("score", .natural result.score), ("explanation", .text result.explanation)]

/-- A tier as a document. -/
def Tier.toJson (tier : Tier) : Json :=
  .text tier.word

/-- A row as a document. -/
def Ranking.Row.toJson (row : Ranking.Row) : Json :=
  .record [("binary_name", .text row.binary), ("function_name", .text row.function),
    ("score", .natural row.score), ("explanation", .text row.explanation),
    ("tier", row.tier.toJson)]

/-- A table as a document. -/
def Ranking.Table.toJson (table : Ranking.Table) : Json :=
  .record [("title", .text table.title), ("caption", .text table.caption),
    ("columns", .array (table.columns.map .text)), ("max_score", .natural table.highest),
    ("rows", .array (table.rows.map Ranking.Row.toJson))]

/-! ## Reading -/

variable {δ : Type} [Document δ]

/-- A function read from a document. -/
def FunctionRecord.ofDocument? (value : δ) : Option FunctionRecord := do
  let [binary, function, code] ←
    allColumns? ["binary_name", "function_name", "code"] (← layout? value) | none
  return ⟨← required text? binary, ← required text? function, ← required text? code⟩

/-- A result read from a document; its score is a byte. -/
def ScoredFunction.ofDocument? (value : δ) : Option ScoredFunction := do
  let [binary, function, score, explanation] ←
    allColumns? ["binary_name", "function_name", "score", "explanation"] (← layout? value) | none
  return ⟨← required text? binary, ← required text? function,
    ← required (naturalBelow? 256) score, ← required text? explanation⟩

/-- A tier read from a document. -/
def Tier.ofDocument? (value : δ) : Option Tier := do
  Tier.ofWord? (← word? value)

end FunctionSearch
