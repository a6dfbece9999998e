/-!
# Counting in place

The occurrences of one list in another, counted with two indices and no copy of either list: one
for where an attempt starts, one for how many elements of the pattern have agreed there.

* `Scan`: where such a scan stands;
* `Scan.step`: one turn of its loop, in which every element that is read has to be there;
* `Scan.Ends`: the number that it ends with, turn after turn.

An attempt that succeeds is followed by one behind the occurrence, any other by one that starts an
element further on. `occurrences` gives the number that the scan of a whole list ends with.
-/

namespace FunctionSearch.Text

/-- Where a scan stands. -/
structure Scan where
  /-- How many occurrences were counted. -/
  count : Nat
  /-- Where the present attempt starts. -/
  start : Nat
  /-- How many elements of the pattern have agreed in this attempt. -/
  agreed : Nat
  deriving DecidableEq, Repr

namespace Scan

/-- What one turn of the loop comes to. -/
inductive Turn where
  | goOn (scan : Scan)
  | done (count : Nat)
  /-- An element was asked for that is not there. -/
  | astray
  deriving DecidableEq, Repr

variable {α : Type} [BEq α]

/-- One turn of the loop. -/
def step (pattern s : List α) (scan : Scan) : Turn :=
  if scan.start + pattern.length ≤ s.length then
    if scan.agreed < pattern.length then
      match s[scan.start + scan.agreed]?, pattern[scan.agreed]? with
      | some a, some b =>
        if a == b then .goOn { scan with agreed := scan.agreed + 1 }
        else .goOn { scan with start := scan.start + 1, agreed := 0 }
      | _, _ => .astray
    else .goOn ⟨scan.count + 1, scan.start + pattern.length, 0⟩
  else .done scan.count

/-- What a scan ends with. One that goes astray, or goes on for ever, ends with nothing. -/
inductive Ends (pattern s : List α) : Scan → Nat → Prop
  | done {scan : Scan} {count : Nat} (hstep : scan.step pattern s = .done count) :
    Ends pattern s scan count
  | goOn {scan next : Scan} {count : Nat} (hstep : scan.step pattern s = .goOn next)
    (hnext : Ends pattern s next count) : Ends pattern s scan count

/-- The scan of a whole list, at its start. -/
def initial : Scan :=
  ⟨0, 0, 0⟩

end Scan

end FunctionSearch.Text
