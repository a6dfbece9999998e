import FunctionSearch.Pattern.Brackets
import FunctionSearch.Pattern.Opening

/-!
# Whether a text is a pattern

A pattern says which texts match it, and an automaton is to find them.

* `Node` and `Level`: what is kept of what was read, as far as it decides about what may follow;
* `Reading` and `Reading.step?`: the next part of a pattern;
* `fault?`: why no automaton can be made of a text.

A count in braces has no place here, since the texts that are asked about have no closing brace.
-/

namespace FunctionSearch.Pattern

/-- Why no automaton can be made of a text. -/
inductive Fault where
  /-- The text is no pattern. -/
  | malformed
  /-- The pattern asks for the bounds of words of any script. -/
  | unsupported
  deriving DecidableEq, Repr

/-- How deep parts may be nested. -/
def depthLimit : Nat := 250

/-- A part of a sequence. -/
structure Node where
  depth : Nat
  /-- Whether it can be repeated, as a change of the modes cannot. -/
  isRepeatable : Bool
  deriving DecidableEq, Repr

/-- The depth of things side by side, each of this depth: they count as one more level unless there
is only one. -/
def depthOf : List Nat → Nat
  | [] => 0
  | [depth] => depth
  | depths => 1 + depths.foldl max 0

/-- What was read of a group, or of all of it outside of groups. -/
structure Level where
  /-- The modes outside. -/
  outside : Modes
  /-- The depths of the alternatives in front of the last one. -/
  branches : List Nat
  /-- The parts of the last alternative, in reverse. -/
  nodes : List Node
  deriving DecidableEq, Repr

namespace Level

/-- A group that starts. -/
def empty (outside : Modes) : Level := ⟨outside, [], []⟩

/-- One more part. -/
def push (level : Level) (node : Node) : Level :=
  { level with nodes := node :: level.nodes }

/-- The depth of the last alternative. -/
def lastDepth (level : Level) : Nat :=
  depthOf (level.nodes.map Node.depth)

/-- A bar behind what was read so far. -/
def split (level : Level) : Level :=
  { level with branches := level.lastDepth :: level.branches, nodes := [] }

/-- The depth of all alternatives. -/
def depth (level : Level) : Nat :=
  depthOf (level.lastDepth :: level.branches)

/-- The last part, repeated. -/
def repeat? (level : Level) : Option Level :=
  match level.nodes with
  | node :: nodes =>
    if node.isRepeatable then some { level with nodes := ⟨node.depth + 1, true⟩ :: nodes } else none
  | [] => none

end Level

/-- What was read of a pattern. -/
structure Reading where
  modes : Modes
  /-- The innermost group. -/
  level : Level
  /-- The groups around it. -/
  outer : List Level
  /-- The names of groups. -/
  names : List (List Char)
  /-- Whether the bounds of words of any script are asked for. -/
  asksForWords : Bool
  deriving DecidableEq, Repr

namespace Reading

/-- Nothing was read so far. -/
def start : Reading := ⟨{}, .empty {}, [], [], false⟩

/-- One more part of this depth. -/
def push (reading : Reading) (depth : Nat) : Reading :=
  { reading with level := reading.level.push ⟨depth, true⟩ }

/-- One of the smallest parts, if it can be meant here. -/
def pushAtom? (reading : Reading) (atom : Atom) : Option Reading :=
  if atom.fits reading.modes then
    some { reading.push 0 with
      asksForWords := reading.asksForWords || (atom == .boundary && reading.modes.isUnicode) }
  else none

/-- What a round bracket opens. -/
def open_ (reading : Reading) : Opening → Reading
  | .setting modes => { reading with modes, level := reading.level.push ⟨0, false⟩ }
  | .group modes name => { reading with
      modes, level := .empty reading.modes, outer := reading.level :: reading.outer
      names := name.toList ++ reading.names }

/-- The end of a group, whose modes end with it. -/
def close? (reading : Reading) : Option Reading :=
  match reading.outer with
  | [] => none
  | level :: outer =>
    let depth := reading.level.depth + 1
    some { reading with modes := reading.level.outside, level := level.push ⟨depth, true⟩, outer }

/-- Read the part that starts with a character, and tell what follows it. -/
def step? (reading : Reading) (c : Char) (s : List Char) : Option (Reading × List Char) :=
  if c == '(' then do
    let (opening, rest) ← Opening.read? reading.modes reading.names s
    return (reading.open_ opening, rest)
  else if c == ')' then reading.close?.map (·, s)
  else if c == '|' then some ({ reading with level := reading.level.split }, s)
  else if c == '[' then do
    let (part, rest) ← readBrackets? reading.modes s
    return (reading.push part.depth, rest)
  else if "?*+".toList.contains c then do
    let level ← reading.level.repeat?
    return ({ reading with level }, if s.head? == some '?' then s.drop 1 else s)
  else if c == '\x7b' then none
  else if c == '\\' then do
    let (atom, rest) ← Atom.escape? reading.modes s
    return (← reading.pushAtom? atom, rest)
  else if c == '.' then (reading.pushAtom? .anyChar).map (·, s)
  else if c == '^' || c == '$' then (reading.pushAtom? .anchor).map (·, s)
  else (reading.pushAtom? (.char c false)).map (·, s)

/-- Read on to the end. Every step reads a character at least, so `steps` need not be more than
there are. -/
def run? (reading : Reading) : (steps : Nat) → List Char → Option Reading
  | steps, s =>
    match reading.modes.skip s, steps with
    | [], _ => some reading
    | _, 0 => none
    | c :: rest, steps + 1 =>
      match reading.step? c rest with
      | some (reading, rest) => run? reading steps rest
      | none => none

end Reading

/-- Why no automaton can be made of a text, if none can. -/
def fault? (s : List Char) : Option Fault :=
  match Reading.start.run? s.length s with
  | none => some .malformed
  | some reading =>
    if !reading.outer.isEmpty || depthLimit < reading.level.depth then some .malformed
    else if reading.asksForWords then some .unsupported
    else none

end FunctionSearch.Pattern
