/-!
# The address of completions

* `completionsUrl`: the address below a base address, which may be given with it or without.
-/

namespace FunctionSearch.Scoring

/-- What follows the base address. -/
def completionsPath : List Char := "/chat/completions".toList

/-- A text less the slashes at its end. -/
def trimSlashes (s : List Char) : List Char :=
  (s.reverse.dropWhile (· == '/')).reverse

/-- The address of completions below a base address. -/
def completionsUrl (endpoint : String) : String :=
  let base := trimSlashes endpoint.toList
  String.ofList (if completionsPath.isSuffixOf base then base else base ++ completionsPath)

end FunctionSearch.Scoring
