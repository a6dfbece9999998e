import FunctionSearch.Number.Decimal
import FunctionSearch.Yaml.Cursor

/-!
# YAML scalars

The text of a scalar in each of the forms that YAML has for it.

* `quoted?`: between single or double quotes;
* `plain?`: without quotes;
* `block?`: as a block of lines, with its breaks kept or folded.

Every reader starts at the first character of the scalar and gives its text and the place behind it,
or nothing if the text is at fault. Texts are collected in reverse. `Gap` is the white space between
two parts of a scalar, of which a single break counts as a space.
-/

namespace FunctionSearch.Yaml

/-! ## White space inside scalars -/

/-- White space between two parts of a scalar: blanks within a line, or breaks. `first` is the first
break, and the breaks that follow it are in reverse like the blanks. -/
structure Gap where
  blanks : List Char
  first : List Char
  more : List Char
  /-- Whether a break was passed, so that blanks are indentation. -/
  broken : Bool

namespace Gap

/-- No white space. -/
def none : Gap :=
  ⟨[], [], [], false⟩

/-- No white space, at the start of a line. -/
def afterBreak : Gap :=
  ⟨[], [], [], true⟩

/-- What a gap contributes to a scalar, in reverse. -/
def text (gap : Gap) : List Char :=
  if !gap.broken then gap.blanks
  else if gap.first == ['\n'] then if gap.more.isEmpty then [' '] else gap.more
  else gap.more ++ gap.first

/-- The gap with a break more. -/
def addBreak (gap : Gap) (lineBreak : List Char) : Gap :=
  if gap.broken then { gap with more := lineBreak ++ gap.more }
  else ⟨[], lineBreak, gap.more, true⟩

end Gap

/-- Collect blanks and breaks. A tab in front of column `indent` of a later line is at fault. -/
def gap? (indent : Nat) (gap : Gap) : (fuel : Nat) → Cursor → Option (Gap × Cursor)
  | 0, c => some (gap, c)
  | fuel + 1, c =>
    match c.peek? with
    | some ch =>
      if isBlank ch then
        if gap.broken && c.column < indent && ch == '\t' then none
        else if gap.broken then gap? indent gap fuel (c.skip 1)
        else gap? indent { gap with blanks := ch :: gap.blanks } fuel (c.skip 1)
      else if isBreak ch then
        let (lineBreak, c) := c.lineBreak
        gap? indent (gap.addBreak lineBreak) fuel c
      else some (gap, c)
    | Option.none => some (gap, c)

/-! ## Quoted scalars -/

/-- The value of a run of hexadecimal digits. -/
def hexRun? (digits : List Char) : Option Nat :=
  digits.foldlM (fun n c => (Number.hexValue? c).map (16 * n + ·)) 0

/-- The character with a code of `count` digits behind a backslash and a letter. -/
def codedChar? (count : Nat) (digits : List Char) : Option Char :=
  let run := digits.take count
  if run.length < count then none
  else (hexRun? run).bind fun n =>
    if (0xD800 ≤ n && n < 0xE000) || 0x10FFFF < n then none else some (Char.ofNat n)

/-- The character that a backslash and a letter stand for. -/
def letterEscape? : Char → Option Char
  | '0' => some '\x00'
  | 'a' => some '\x07'
  | 'b' => some '\x08'
  | 't' => some '\t'
  | '\t' => some '\t'
  | 'n' => some '\n'
  | 'v' => some '\x0b'
  | 'f' => some '\x0c'
  | 'r' => some '\r'
  | 'e' => some '\x1b'
  | ' ' => some ' '
  | '"' => some '"'
  | '/' => some '/'
  | '\\' => some '\\'
  | 'N' => some '\u0085'
  | '_' => some '\u00a0'
  | 'L' => some '\u2028'
  | 'P' => some '\u2029'
  | _ => none

/-- The number of digits of the code that a letter announces. -/
def codeLength : Char → Nat
  | 'x' => 2
  | 'u' => 4
  | 'U' => 8
  | _ => 0

/-- The character that an escape stands for, and the length of the escape with its backslash. -/
def escape? : List Char → Option (Char × Nat)
  | letter :: rest =>
    match codeLength letter with
    | 0 => (letterEscape? letter).map (·, 2)
    | count => (codedChar? count rest).map (·, 2 + count)
  | [] => none

/-- Where a run of characters of a quoted scalar ends: at the closing quote, at white space, or
behind an escaped break. -/
inductive RunEnd where
  | quote
  | space
  | escapedBreak
  deriving DecidableEq

/-- Collect characters up to the end of their run. -/
def quotedRun? (double : Bool) (text : List Char) : (fuel : Nat) → Cursor →
    Option (List Char × RunEnd × Cursor)
  | 0, _ => none
  | fuel + 1, c =>
    match c.rest with
    | [] => some (text, .space, c)
    | ch :: rest =>
      if isBlank ch || isBreak ch then some (text, .space, c)
      else if !double && ch == '\'' then
        if rest.head? == some '\'' then quotedRun? double ('\'' :: text) fuel (c.skip 2)
        else some (text, .quote, c)
      else if double && ch == '"' then some (text, .quote, c)
      else if double && ch == '\\' then
        if rest.head?.any isBreak then some (text, .escapedBreak, (c.skip 1).skipBreak)
        else match escape? rest with
          | some (meant, length) => quotedRun? double (meant :: text) fuel (c.skip length)
          | none => none
      else quotedRun? double (ch :: text) fuel (c.skip 1)

/-- Collect the runs of a quoted scalar and the white space between them up to its closing quote. -/
def quotedFrom? (double : Bool) (text : List Char) : (fuel : Nat) → Cursor →
    Option (List Char × Cursor)
  | 0, _ => none
  | fuel + 1, c =>
    if c.atDocumentMark || c.atEnd then none
    else match quotedRun? double text (fuel + 1) c with
      | none => none
      | some (text, .quote, c) => some (text, c.skip 1)
      | some (text, runEnd, c) =>
        if c.looksAt (if double then '"' else '\'') then some (text, c.skip 1)
        else
          let start := if runEnd = .escapedBreak then Gap.afterBreak else Gap.none
          match gap? 0 start (fuel + 1) c with
          | none => none
          | some (gap, c) => quotedFrom? double (gap.text ++ text) fuel c

/-- A quoted scalar. -/
def quoted? (double : Bool) (c : Cursor) : Option (String × Cursor) :=
  (quotedFrom? double [] (c.rest.length + 1) (c.skip 1)).map fun (text, c) =>
    (String.ofList text.reverse, c)

/-! ## Plain scalars -/

/-- The characters that end a plain scalar inside brackets. -/
def isFlowIndicator (ch : Char) : Bool :=
  ch == ',' || ch == '[' || ch == ']' || ch == '\x7b' || ch == '\x7d'

/-- Whether a plain scalar ends in front of the character here, which is no white space. -/
def endsPlain (inFlow : Bool) (c : Cursor) : Bool :=
  (c.looksAt ':' && c.blankAt 1) || (inFlow && c.peek?.any isFlowIndicator)

/-- Whether a colon stands here directly in front of an indicator, which is at fault in brackets. -/
def isBadColon (inFlow : Bool) (c : Cursor) : Bool :=
  inFlow && c.looksAt ':' && (c.peekAt? 1).any fun ch => isFlowIndicator ch || ch == '?'

/-- Collect the characters of a plain scalar up to white space or its end. -/
def plainRun? (inFlow : Bool) (text : List Char) : (fuel : Nat) → Cursor →
    Option (List Char × Cursor)
  | 0, c => some (text, c)
  | fuel + 1, c =>
    match c.peek? with
    | none => some (text, c)
    | some ch =>
      if isBlank ch || isBreak ch then some (text, c)
      else if isBadColon inFlow c then none
      else if endsPlain inFlow c then some (text, c)
      else plainRun? inFlow (ch :: text) fuel (c.skip 1)

/-- Collect the runs of a plain scalar. `gap` is the white space in front of this place; it counts
only if the scalar goes on. The last part of the answer says whether a break was passed behind the
scalar. -/
def plainFrom? (inFlow : Bool) (indent : Nat) (text : List Char) (gap : Gap) : (fuel : Nat) →
    Cursor → Option (List Char × Cursor × Bool)
  | 0, c => some (text, c, gap.broken)
  | fuel + 1, c =>
    if c.atDocumentMark || c.looksAt '#' then some (text, c, gap.broken)
    else match plainRun? inFlow [] (fuel + 1) c with
      | none => none
      | some (run, c) =>
        let text := if run.isEmpty then text else run ++ gap.text ++ text
        let gap := if run.isEmpty then gap else Gap.none
        if !c.atSpace then some (text, c, gap.broken)
        else match gap? indent gap (fuel + 1) c with
          | none => none
          | some (gap, c) =>
            if !inFlow && c.column < indent then some (text, c, gap.broken)
            else plainFrom? inFlow indent text gap fuel c

/-- A plain scalar, whose later lines stand at column `indent` or behind it, and whether a break was
passed behind it. -/
def plain? (inFlow : Bool) (indent : Nat) (c : Cursor) : Option (String × Cursor × Bool) :=
  (plainFrom? inFlow indent [] Gap.none (c.rest.length + 1) c).map fun (text, c, broken) =>
    (String.ofList text.reverse, c, broken)

/-! ## Block scalars -/

/-- What becomes of the breaks at the end of a block. -/
inductive Chomping where
  | strip
  | clip
  | keep
  deriving DecidableEq

/-- The sign for what becomes of the breaks at the end. -/
def chomping? : Char → Option Chomping
  | '-' => some .strip
  | '+' => some .keep
  | _ => none

/-- A digit for the indentation of a block. -/
def indentDigit? (c : Cursor) : Option (Option Nat × Cursor) :=
  match c.peek? with
  | some ch =>
    if ch == '0' then none
    else if ch.isDigit then some (some (ch.toNat - '0'.toNat), c.skip 1)
    else some (none, c)
  | none => some (none, c)

/-- The sign for the end of a block. -/
def chompingSign (c : Cursor) : Option Chomping × Cursor :=
  match c.peek?.bind chomping? with
  | some chomping => (some chomping, c.skip 1)
  | none => (none, c)

/-- The header of a block: how it ends and how far it is indented, in either order. -/
def blockHeader? (c : Cursor) : Option (Chomping × Option Nat × Cursor) := do
  match chompingSign c with
  | (some chomping, c) =>
    let (indent, c) ← indentDigit? c
    return (chomping, indent, c)
  | (none, c) =>
    let (indent, c) ← indentDigit? c
    let (chomping, c) := if indent.isSome then chompingSign c else (none, c)
    return (chomping.getD .clip, indent, c)

/-- Pass the empty lines of a block: the breaks in reverse, the widest indentation, and the place of
the first line that is not empty. Without an indentation all spaces count as indentation. A tab in
front of the block is at fault. -/
def emptyLines? (indent : Option Nat) (breaks : List Char) (widest : Nat) : (fuel : Nat) → Cursor →
    Option (List Char × Nat × Cursor)
  | 0, c => some (breaks, widest, c)
  | fuel + 1, c =>
    let spaces := (c.rest.takeWhile (· == ' ')).length
    let c := c.skip (match indent with
      | none => spaces
      | some n => min spaces (n - c.column))
    let widest := max widest c.column
    if indent.all (c.column < ·) && c.looksAt '\t' then none
    else if c.peek?.any isBreak then
      let (lineBreak, c) := c.lineBreak
      emptyLines? indent (lineBreak ++ breaks) widest fuel c
    else some (breaks, widest, c)

/-- Collect the lines of a block with its indentation. `last` is the break behind the line before,
`breaks` are the empty lines since then, and `blank` says whether the line before started with a
blank; all are in reverse. -/
def blockLines? (literal : Bool) (indent : Nat) (text last breaks : List Char) (blank : Bool) :
    (fuel : Nat) → Cursor → Option (List Char × List Char × List Char × Cursor)
  | 0, c => some (text, last, breaks, c)
  | fuel + 1, c =>
    if c.column != indent || c.atEnd then some (text, last, breaks, c)
    else
      let nextBlank := c.peek?.any isBlank
      let folds := !literal && last == ['\n'] && !blank && !nextBlank
      let glue := if folds then if breaks.isEmpty then [' '] else breaks else breaks ++ last
      let (line, c) := c.span (!isBreak ·)
      let (last, c) := c.lineBreak
      match emptyLines? (some indent) [] 0 (fuel + 1) c with
      | none => none
      | some (breaks, _, c) =>
        blockLines? literal indent (line.reverse ++ glue ++ text) last breaks nextBlank fuel c

/-- The break behind the last line and the empty lines after it, as far as they are kept. -/
def blockTail : Chomping → (last breaks : List Char) → List Char
  | .strip, _, _ => []
  | .clip, last, _ => last
  | .keep, last, breaks => breaks ++ last

/-- A block scalar inside a block of indentation `outer`, which is negative at the top. -/
def block? (literal : Bool) (outer : Int) (c : Cursor) : Option (String × Cursor) := do
  let (chomping, digit, c) ← blockHeader? (c.skip 1)
  let c := c.skipWhile isBlank
  let c := if c.looksAt '#' then c.skipToBreak else c
  if !c.endsLineAt 0 then none
  else
    let c := c.skipBreak
    let given := digit.map fun n => outer.toNat + n
    let (breaks, widest, c) ← emptyLines? given [] 0 (c.rest.length + 1) c
    let indent := given.getD (max (max widest (outer + 1).toNat) 1)
    let (text, last, breaks, c) ←
      blockLines? literal indent [] [] breaks false (c.rest.length + 1) c
    return (String.ofList (blockTail chomping last breaks ++ text).reverse, c)

end FunctionSearch.Yaml
