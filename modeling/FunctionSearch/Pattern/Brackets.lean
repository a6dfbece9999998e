import FunctionSearch.Pattern.Atom

/-!
# Sets of characters in brackets

* `Part`: what is kept of a set: how deep it is nested, and whether it holds bytes above ASCII;
* `Bracket`: a set that is still being read;
* `Bracket.named?`: a set with a name between colons;
* `readBrackets?`: a set in brackets, and what follows it.

Sets are put together by writing them one after the other, and by signs for what two have in common,
what one has without the other, and what only one of two has.
-/

namespace FunctionSearch.Pattern

/-- What is kept of a set. -/
structure Part where
  /-- How deep it is nested. -/
  depth : Nat
  /-- Whether it holds the bytes above ASCII; in a set of characters there are none. -/
  isHigh : Bool
  deriving DecidableEq, Repr

/-- How two sets are put together. -/
inductive Joint where
  | inCommon
  | without
  | inOne
  deriving DecidableEq, Repr

namespace Part

/-- A single character, a range, or a set with a name. -/
def leaf : Part := ⟨0, false⟩

/-- Sets put together, given in reverse. -/
def union : List Part → Part
  | [] => leaf
  | [part] => part
  | parts => ⟨1 + (parts.map depth).foldl max 0, parts.any isHigh⟩

/-- Two sets put together. -/
def join (joint : Joint) (a b : Part) : Part where
  depth := 1 + max a.depth b.depth
  isHigh := match joint with
    | .inCommon => a.isHigh && b.isHigh
    | .without => a.isHigh && !b.isHigh
    | .inOne => a.isHigh != b.isHigh

end Part

/-- A set that is still being read. -/
structure Bracket where
  isNegated : Bool
  /-- Whether nothing but hyphens was read so far. -/
  isFresh : Bool
  /-- The sets behind the last sign, in reverse. -/
  parts : List Part
  /-- The set in front of the last sign. -/
  front : Option (Joint × Part)
  deriving DecidableEq, Repr

namespace Bracket

/-- A set that starts here, behind its bracket, and what follows the sign for all else. -/
def start (modes : Modes) (s : List Char) : Bracket × List Char :=
  match modes.skip s with
  | '^' :: rest => (⟨true, true, [], none⟩, rest)
  | rest => (⟨false, true, [], none⟩, rest)

/-- One more set. -/
def push (bracket : Bracket) (part : Part) : Bracket :=
  { bracket with parts := part :: bracket.parts, isFresh := false }

/-- A hyphen in front of everything else. -/
def pushHyphen (bracket : Bracket) : Bracket :=
  { bracket with parts := Part.leaf :: bracket.parts }

/-- All that was read so far. -/
def whole (bracket : Bracket) : Part :=
  let last := Part.union bracket.parts
  match bracket.front with
  | none => last
  | some (joint, front) => front.join joint last

/-- A sign behind what was read so far. -/
def split (bracket : Bracket) (joint : Joint) : Bracket :=
  { bracket with parts := [], isFresh := false, front := some (joint, bracket.whole) }

/-- The set, when its bracket closes. A set of bytes must not hold any above ASCII. -/
def close? (modes : Modes) (bracket : Bracket) : Option Part :=
  let whole := bracket.whole
  if modes.isUnicode then some ⟨whole.depth + 1, false⟩
  else if whole.isHigh != bracket.isNegated then none
  else some ⟨whole.depth + 1, false⟩

/-- The names of sets of ASCII. -/
def names : List String :=
  ["alnum", "alpha", "ascii", "blank", "cntrl", "digit", "graph", "lower", "print", "punct",
    "space", "upper", "word", "xdigit"]

/-- The set with a name between colons, behind a bracket, and what follows the bracket that closes.
-/
def named? (modes : Modes) : List Char → Option (Part × List Char)
  | ':' :: s =>
    let isNegated := s.head? == some '^'
    let s := if isNegated then s.drop 1 else s
    let name := s.takeWhile (· != ':')
    match s.drop name.length with
    | ':' :: ']' :: rest =>
      if names.contains (String.ofList name) then some (⟨0, isNegated && !modes.isUnicode⟩, rest)
      else none
    | _ => none
  | _ => none

/-- The character or the set that comes next, and what follows it. -/
def atom? (modes : Modes) : List Char → Option (Atom × List Char)
  | [] => none
  | '\\' :: s => (Atom.escape? modes s).filter fun (atom, _) => atom.fitsClass modes
  | c :: s => if (Atom.char c false).fitsClass modes then some (.char c false, s) else none

/-- The character, range or set that comes next, and what follows it. A hyphen behind which another
one or the closing bracket comes makes no range. -/
def item? (modes : Modes) (s : List Char) : Option (List Char) := do
  let (first, rest) ← atom? modes s
  match modes.skip rest with
  | [] => none
  | '-' :: behind =>
    if [some ']', some '-'].contains (modes.peek behind) then return '-' :: behind
    else
      let (last, rest) ← atom? modes (modes.skip behind)
      match first, last with
      | .char a _, .char b _ => if a ≤ b then return rest else none
      | _, _ => none
  | rest => return rest

/-- The signs between sets. -/
def joint? : List Char → Option (Joint × List Char)
  | '&' :: '&' :: rest => some (.inCommon, rest)
  | '-' :: '-' :: rest => some (.without, rest)
  | '~' :: '~' :: rest => some (.inOne, rest)
  | _ => none

end Bracket

/-- Read on within brackets, of which `outer` are open around the innermost one. Every step reads a
character at least, so `steps` need not be more than there are. -/
def readBracketsFrom? (modes : Modes) (outer : List Bracket) (bracket : Bracket) :
    (steps : Nat) → List Char → Option (Part × List Char)
  | 0, _ => none
  | steps + 1, s =>
    match modes.skip s with
    | [] => none
    | '[' :: rest =>
      match Bracket.named? modes rest with
      | some (part, rest) => readBracketsFrom? modes outer (bracket.push part) steps rest
      | none =>
        let (inner, rest) := Bracket.start modes rest
        readBracketsFrom? modes (bracket :: outer) inner steps rest
    | ']' :: rest =>
      if bracket.isFresh && bracket.parts.isEmpty then
        readBracketsFrom? modes outer (bracket.push .leaf) steps rest
      else match bracket.close? modes, outer with
        | none, _ => none
        | some part, [] => some (part, rest)
        | some part, next :: outer => readBracketsFrom? modes outer (next.push part) steps rest
    | c :: rest =>
      if bracket.isFresh && c == '-' then
        readBracketsFrom? modes outer bracket.pushHyphen steps rest
      else match Bracket.joint? (c :: rest) with
        | some (joint, rest) => readBracketsFrom? modes outer (bracket.split joint) steps rest
        | none =>
          match Bracket.item? modes (c :: rest) with
          | some rest => readBracketsFrom? modes outer (bracket.push .leaf) steps rest
          | none => none

/-- The set that starts behind a bracket, and what follows it. -/
def readBrackets? (modes : Modes) (s : List Char) : Option (Part × List Char) :=
  let (bracket, rest) := Bracket.start modes s
  readBracketsFrom? modes [] bracket s.length rest

end FunctionSearch.Pattern
