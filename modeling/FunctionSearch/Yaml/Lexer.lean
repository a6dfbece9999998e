import FunctionSearch.Yaml.Name
import FunctionSearch.Yaml.Scalar

/-!
# From text to YAML tokens

* `Lexer`: a place in the text, the tokens so far, the open blocks by their columns, and for every
  level of brackets the place where a key without a question mark may have started;
* `Lexer.next?`: the tokens that start at the next character that is no white space;
* `Token.ofText?`: the tokens of a whole text, or nothing if it is at fault.

A key without a question mark is known for a key only at its colon. Its token is then put in front
of what was read since, together with the start of a block if it opens one.
-/

namespace FunctionSearch.Yaml

/-- A place where a key may have started: the number of its token, and whether the text is at fault
if no colon follows. -/
structure PossibleKey where
  token : Nat
  required : Bool
  line : Nat
  column : Nat
  offset : Nat

/-- The state between two tokens. The keys of the inner brackets stand first; there is one entry for
every level of brackets and one for the outside. -/
structure Lexer where
  cursor : Cursor
  tokens : Array Token
  indent : Int
  outerIndents : List Int
  keys : List (Option PossibleKey)
  keyAllowed : Bool

namespace Lexer

/-- The state at the start of a text. -/
def start (text : List Char) : Lexer :=
  ⟨.start text, #[], -1, [], [none], true⟩

/-- Whether the place is inside brackets. -/
def inFlow (l : Lexer) : Bool :=
  1 < l.keys.length

/-- Add a token. -/
def push (l : Lexer) (token : Token) : Lexer :=
  { l with tokens := l.tokens.push token }

/-- Add a token that is `n` characters long. -/
def pushOver (l : Lexer) (n : Nat) (token : Token) : Lexer :=
  { l with tokens := l.tokens.push token, cursor := l.cursor.skip n }

/-! ## Keys -/

/-- The greatest number of bytes between the start of a key and its colon. -/
def keyLimit : Nat := 1024

/-- Whether a key that started at `key` can no longer have its colon here. -/
def isStale (l : Lexer) (key : PossibleKey) : Bool :=
  key.line < l.cursor.line || key.offset + keyLimit < l.cursor.offset

/-- Forget the keys that can no longer have their colon. -/
def dropStale? (l : Lexer) : Option Lexer := do
  let keys ← l.keys.mapM fun key =>
    match key with
    | some k => if l.isStale k then if k.required then none else some none else some (some k)
    | none => some none
  return { l with keys }

/-- Forget the key of this level. -/
def dropKey? (l : Lexer) : Option Lexer :=
  if (l.keys.headD none).any (·.required) then none
  else some { l with keys := none :: l.keys.tail }

/-- Remember that a key may start here. -/
def saveKey? (l : Lexer) : Option Lexer :=
  if l.keyAllowed then do
    let l ← l.dropKey?
    let required := !l.inFlow && l.indent == l.cursor.column
    let key := ⟨l.tokens.size, required, l.cursor.line, l.cursor.column, l.cursor.offset⟩
    return { l with keys := some key :: l.keys.tail }
  else some l

/-! ## Blocks -/

/-- Open a block at a column, unless it is open, with its token in place `position`. -/
def openBlock (l : Lexer) (column position : Nat) (token : Token) : Lexer :=
  if !l.inFlow && l.indent < column then
    { l with
      indent := column
      outerIndents := l.indent :: l.outerIndents
      tokens := l.tokens.insertIdxIfInBounds position token }
  else l

/-- Close the blocks from the innermost on that are indented further than a column. -/
def closeFrom (column indent : Int) (tokens : Array Token) : List Int → Int × List Int × Array Token
  | [] => (indent, [], tokens)
  | outer :: outers =>
    if column < indent then closeFrom column outer (tokens.push .blockEnd) outers
    else (indent, outer :: outers, tokens)

/-- Close the blocks that are indented further than a column. -/
def closeBlocks (l : Lexer) (column : Int) : Lexer :=
  if l.inFlow then l
  else
    let (indent, outerIndents, tokens) := closeFrom column l.indent l.tokens l.outerIndents
    { l with indent, outerIndents, tokens }

/-! ## White space -/

/-- Go on to the next character that is neither white space nor in a comment. A byte order mark may
stand at the start of a line, tabs are white space only where no key may start, and a break allows a
key outside brackets. -/
def skipSpace (l : Lexer) : (fuel : Nat) → Lexer
  | 0 => l
  | fuel + 1 =>
    let tabs := l.inFlow || !l.keyAllowed
    let c := l.cursor
    let c := if c.column == 0 && c.looksAt '\uFEFF' then c.skip 1 else c
    let c := c.skipWhile fun ch => ch == ' ' || (tabs && ch == '\t')
    let c := if c.looksAt '#' then c.skipToBreak else c
    if c.peek?.any isBreak then
      skipSpace { l with cursor := c.skipBreak, keyAllowed := l.keyAllowed || !l.inFlow } fuel
    else { l with cursor := c }

/-! ## Tokens -/

/-- A token with which all blocks end: a directive or the border of a document. -/
def border? (l : Lexer) (read : Cursor → Option (Token × Cursor)) : Option Lexer := do
  let l ← (l.closeBlocks (-1)).dropKey?
  let (token, cursor) ← read l.cursor
  return { l with cursor, tokens := l.tokens.push token, keyAllowed := false }

/-- An opening bracket. -/
def openFlow? (l : Lexer) (token : Token) : Option Lexer := do
  let l ← l.saveKey?
  return { l.pushOver 1 token with keys := none :: l.keys, keyAllowed := true }

/-- A closing bracket. -/
def closeFlow? (l : Lexer) (token : Token) : Option Lexer := do
  let l ← l.dropKey?
  let keys := if l.inFlow then l.keys.tail else l.keys
  return { l.pushOver 1 token with keys, keyAllowed := false }

/-- A comma inside brackets. -/
def flowEntry? (l : Lexer) : Option Lexer := do
  let l ← l.dropKey?
  return { l.pushOver 1 .flowEntry with keyAllowed := true }

/-- Open a block for an indicator, which outside brackets must stand where a key may start. -/
def openFor? (l : Lexer) (token : Token) : Option Lexer :=
  if l.inFlow then some l
  else if l.keyAllowed then some (l.openBlock l.cursor.column l.tokens.size token)
  else none

/-- The dash of an item. -/
def blockEntry? (l : Lexer) : Option Lexer := do
  let l ← (← l.openFor? .blockSequenceStart).dropKey?
  return { l.pushOver 1 .blockEntry with keyAllowed := true }

/-- The question mark of a key. -/
def key? (l : Lexer) : Option Lexer := do
  let l ← (← l.openFor? .blockMappingStart).dropKey?
  return { l.pushOver 1 .key with keyAllowed := !l.inFlow }

/-- The colon of a value. If a key was possible, it was one. -/
def value? (l : Lexer) : Option Lexer :=
  match l.keys.headD none with
  | some key =>
    let l := { l with tokens := l.tokens.insertIdxIfInBounds key.token .key }
    let l := l.openBlock key.column key.token .blockMappingStart
    some { l.pushOver 1 .value with keys := none :: l.keys.tail, keyAllowed := false }
  | none => do
    let l ← l.openFor? .blockMappingStart
    return { l.pushOver 1 .value with keyAllowed := !l.inFlow }

/-- A token that may start a key, after which none may start at once. -/
def inLine? (l : Lexer) (read : Cursor → Option (Token × Cursor)) : Option Lexer := do
  let l ← l.saveKey?
  let (token, cursor) ← read l.cursor
  return { l with cursor, tokens := l.tokens.push token, keyAllowed := false }

/-- A quoted scalar. -/
def quotedToken? (double : Bool) (c : Cursor) : Option (Token × Cursor) :=
  (quoted? double c).map fun (text, c) => (.scalar text .quoted, c)

/-- A plain scalar. A key may start behind it if a break was passed. -/
def plainToken? (l : Lexer) : Option Lexer := do
  let l ← l.saveKey?
  let (text, cursor, broken) ← plain? l.inFlow (l.indent + 1).toNat l.cursor
  return { l with cursor, tokens := l.tokens.push (.scalar text .plain), keyAllowed := broken }

/-- A block scalar. -/
def blockToken? (l : Lexer) (literal : Bool) : Option Lexer := do
  let l ← l.dropKey?
  let (text, cursor) ← block? literal l.indent l.cursor
  let style := if literal then .literal else .folded
  return { l with cursor, tokens := l.tokens.push (.scalar text style), keyAllowed := true }

/-- The characters that never start a plain scalar, or only in front of certain others. -/
def isIndicator (ch : Char) : Bool :=
  "-?:,[]\x7b\x7d#&*!|>'\"%@`".toList.contains ch

/-- Whether a plain scalar starts here. -/
def startsPlain (l : Lexer) : Bool :=
  l.cursor.peek?.any fun ch =>
    (!isIndicator ch && !Yaml.isBlank ch && !isBreak ch) ||
      (ch == '-' && !(l.cursor.peekAt? 1).any Yaml.isBlank) ||
      (!l.inFlow && (ch == '?' || ch == ':') && !l.cursor.blankAt 1)

/-- Whether an indicator stands here that needs white space behind it outside brackets. -/
def atIndicator (l : Lexer) (ch : Char) : Bool :=
  l.cursor.looksAt ch && (l.inFlow || l.cursor.blankAt 1)

/-- The token that starts here, which is not the end of the text. -/
def token? (l : Lexer) : Option Lexer :=
  let c := l.cursor
  if c.column == 0 && c.looksAt '%' then l.border? directive?
  else if c.atDocumentMark then
    l.border? fun c =>
      some (if c.looksAt '-' then .documentStart else .documentEnd, c.skip 3)
  else match c.peek? with
    | some '[' => l.openFlow? .flowSequenceStart
    | some '\x7b' => l.openFlow? .flowMappingStart
    | some ']' => l.closeFlow? .flowSequenceEnd
    | some '\x7d' => l.closeFlow? .flowMappingEnd
    | some ',' => l.flowEntry?
    | some ch =>
      if ch == '-' && c.blankAt 1 then l.blockEntry?
      else if l.atIndicator '?' then l.key?
      else if l.atIndicator ':' then l.value?
      else if ch == '*' then l.inLine? (nameToken? .reference)
      else if ch == '&' then l.inLine? (nameToken? .anchor)
      else if ch == '!' then l.inLine? (tagToken? l.inFlow)
      else if ch == '|' && !l.inFlow then l.blockToken? true
      else if ch == '>' && !l.inFlow then l.blockToken? false
      else if ch == '\'' then l.inLine? (quotedToken? false)
      else if ch == '"' then l.inLine? (quotedToken? true)
      else if l.startsPlain then l.plainToken?
      else none
    | none => none

/-- Go on to the next character that is no white space and close the blocks that end there. -/
def advance? (l : Lexer) (fuel : Nat) : Option Lexer := do
  let l ← (l.skipSpace fuel).dropStale?
  return l.closeBlocks l.cursor.column

/-- The end of the text: all blocks end. -/
def finish? (l : Lexer) : Option (List Token) := do
  let l ← (l.closeBlocks (-1)).dropKey?
  return l.tokens.toList

/-- The tokens from here to the end of the text. -/
def run? (l : Lexer) : (fuel : Nat) → Option (List Token)
  | 0 => none
  | fuel + 1 =>
    match l.advance? (fuel + 1) with
    | none => none
    | some l =>
      if l.cursor.atEnd then l.finish?
      else match l.token? with
        | none => none
        | some l => run? l fuel

end Lexer

/-- The tokens of a text. -/
def Token.ofText? (text : List Char) : Option (List Token) :=
  if text.all isAllowed then (Lexer.start text).run? (text.length + 2) else none

end FunctionSearch.Yaml
