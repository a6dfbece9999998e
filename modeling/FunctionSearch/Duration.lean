import FunctionSearch.Number.Binary64

/-!
# Durations

Spans of time in milliseconds.

* `Duration.ofSeconds`: a span of whole seconds;
* `Duration.deadline?`: a configured limit, of which zero means that there is none;
* `Duration.wholeSeconds` and `Duration.secondsText`: a span in seconds, cut off or in double
  precision.
-/

namespace FunctionSearch

/-- A span of time. -/
structure Duration where
  milliseconds : Nat
  deriving DecidableEq, Repr

namespace Duration

/-- A span of whole seconds. -/
def ofSeconds (n : Nat) : Duration :=
  ⟨1000 * n⟩

/-- A limit given in seconds: zero is no limit. -/
def deadline? (seconds : Nat) : Option Duration :=
  if 0 < seconds then some (ofSeconds seconds) else none

/-- The whole seconds of a span. -/
def wholeSeconds (d : Duration) : Nat :=
  d.milliseconds / 1000

/-- The span in seconds: the whole seconds and the billionths, each rounded to double precision,
and their rounded sum. -/
def secondsText (d : Duration) : String :=
  let billionths := d.milliseconds % 1000 * 1000000
  ((Number.Binary64.nearest d.wholeSeconds 1).add
    (Number.Binary64.nearest billionths 1000000000)).text

end Duration

end FunctionSearch
