/-!
# Tiers

A score in relation to the highest score around: at least three quarters of it, at least half of it,
or less. Both borders belong to the upper side, and the comparison is one of whole numbers, so
against a highest score of zero every score is in the top tier.
-/

namespace FunctionSearch

/-- The standing of a score among others. -/
inductive Tier where
  | top
  | mid
  | low
  deriving DecidableEq, Repr

namespace Tier

/-- The tier of a score when `highest` is the highest one. -/
def classify (score highest : Nat) : Tier :=
  if 3 * highest ≤ 4 * score then .top
  else if highest ≤ 2 * score then .mid
  else .low

/-- The word for a tier. -/
def word : Tier → String
  | .top => "top"
  | .mid => "mid"
  | .low => "low"

/-- The tier that a word names. -/
def ofWord? (word : String) : Option Tier :=
  [top, mid, low].find? (·.word == word)

end Tier

end FunctionSearch
