import FunctionSearch.Yaml.Lexer

/-!
# YAML nodes

* `Node`: what a YAML document says, with references by number;
* `Rooted`: a node together with the anchored nodes of its document, which its references mean;
* `Composer`: the tokens that are left, the anchors so far and the tag handles in force;
* `Rooted.ofTokens?`: the one document of a token sequence;
* `Rooted.parse?`: the one document of a text.

An anchor takes the number of the names that stand in front of it, each counted once. A name that is
given again takes the next free number, which a new name behind it then shares. A reference has the
number of its name in its place, and means the last node of the document with that number, even one
that starts behind the reference or that the reference stands in.

A node without content is an empty plain scalar, and so is a text without a document. Every call of
the mutual readers spends a unit of fuel; between two tokens there are at most three calls.
-/

namespace FunctionSearch.Yaml

/-- A node of a document. -/
inductive Node where
  | scalar (text : String) (style : ScalarStyle) (tag : Option Bytes)
  | sequence (items : List Node)
  | mapping (entries : List (Node × Node))
  | reference (number : Nat)

/-- The node without content. -/
def Node.empty : Node :=
  .scalar "" .plain none

/-- An anchor by its number, and its node, which is missing while it is being read. -/
structure Anchor where
  number : Nat
  node : Option Node

/-- A node together with the anchors of its document. -/
structure Rooted where
  node : Node
  anchors : List Anchor

/-- What a reader of nodes knows. -/
structure Composer where
  tokens : List Token
  /-- The names so far, each with the number that it stands for here. -/
  names : List (String × Nat)
  /-- The anchors so far, in the order in which they start. -/
  anchors : Array Anchor
  handles : List (String × Bytes)

namespace Composer

/-- The state behind the next token. -/
def next (s : Composer) : Composer :=
  { s with tokens := s.tokens.tail }

/-- Whether the next token is this one. -/
def sees (s : Composer) (token : Token) : Bool :=
  s.tokens.head? == some token

/-- Whether the next token is one of these. -/
def seesOne (s : Composer) (tokens : List Token) : Bool :=
  s.tokens.head?.any tokens.contains

/-- A reference to a name that stands in front of it. -/
def reference? (s : Composer) (name : String) : Option Node :=
  (s.names.lookup name).map .reference

/-- A node begins that may have an anchor. The answer is the place of its anchor in the list. -/
def startNode (s : Composer) (anchor : Option String) : Option Nat × Composer :=
  match anchor with
  | some name =>
    let number := s.names.length
    (some s.anchors.size, { s with
      names := (name, number) :: s.names.filter (·.1 != name)
      anchors := s.anchors.push ⟨number, none⟩ })
  | none => (none, s)

/-- The node whose anchor has this place in the list is complete. -/
def complete (s : Composer) (place : Option Nat) (node : Node) : Composer :=
  match place with
  | some i => { s with anchors := s.anchors.modify i ({ · with node := some node }) }
  | none => s

/-- The whole of a tag. -/
def tagBytes? (s : Composer) (handle : String) (rest : Bytes) : Option (Option Bytes) :=
  if handle.isEmpty then some (some rest)
  else (s.handles.lookup handle).map fun expansion => some (expansion ++ rest)

/-- The anchor and the tag in front of a node, in either order. The answers say whether there was a
mark at all. -/
def properties? (s : Composer) : Option (Option String × Option Bytes × Bool × Composer) :=
  match s.tokens with
  | .anchor name :: .tag handle rest :: tokens =>
    (s.tagBytes? handle rest).map (some name, ·, true, { s with tokens })
  | .tag handle rest :: .anchor name :: tokens =>
    (s.tagBytes? handle rest).map (some name, ·, true, { s with tokens })
  | .anchor name :: tokens => some (some name, none, true, { s with tokens })
  | .tag handle rest :: tokens => (s.tagBytes? handle rest).map (none, ·, true, { s with tokens })
  | _ => some (none, none, false, s)

/-- What stands in front of a node decides how it may look. -/
structure Context where
  /-- Whether blocks may start here. -/
  block : Bool
  /-- Whether a sequence may start here without being indented. -/
  indentless : Bool

/-- Inside brackets. -/
def Context.flow : Context := ⟨false, false⟩

/-- As an item, or as a document. -/
def Context.item : Context := ⟨true, false⟩

/-- As a key or a value of a block. -/
def Context.field : Context := ⟨true, true⟩

mutual

/-- A node. -/
def node? (context : Context) : (fuel : Nat) → Composer → Option (Node × Composer)
  | 0, _ => none
  | fuel + 1, s =>
    match s.tokens with
    | .reference name :: _ => (s.reference? name).map (·, s.next)
    | _ =>
      match s.properties? with
      | none => none
      | some (anchor, tag, marked, s) =>
        let (place, s) := s.startNode anchor
        match content? context tag marked fuel s with
        | none => none
        | some (node, s) => some (node, s.complete place node)

/-- The content of a node behind its anchor and tag. -/
def content? (context : Context) (tag : Option Bytes) (marked : Bool) : (fuel : Nat) → Composer →
    Option (Node × Composer)
  | 0, _ => none
  | fuel + 1, s =>
    if context.indentless && s.sees .blockEntry then indentlessItems? [] fuel s
    else match s.tokens with
      | .scalar text style :: _ => some (.scalar text style tag, s.next)
      | .flowSequenceStart :: _ => flowItems? [] fuel s.next
      | .flowMappingStart :: _ => flowEntries? [] fuel s.next
      | .blockSequenceStart :: _ =>
        if context.block then blockItems? [] fuel s.next else emptyNode? s
      | .blockMappingStart :: _ =>
        if context.block then blockEntries? [] fuel s.next else emptyNode? s
      | _ => emptyNode? s
where
  /-- A node of which only the anchor or the tag is written. -/
  emptyNode? (s : Composer) : Option (Node × Composer) :=
    if marked then some (.scalar "" .plain tag, s) else none

/-- A node, or an empty one in front of certain tokens. -/
def nodeUnless? (stops : List Token) (context : Context) : (fuel : Nat) → Composer →
    Option (Node × Composer)
  | 0, _ => none
  | fuel + 1, s => if s.seesOne stops then some (.empty, s) else node? context fuel s

/-- The items of an indented sequence. -/
def blockItems? (done : List Node) : (fuel : Nat) → Composer → Option (Node × Composer)
  | 0, _ => none
  | fuel + 1, s =>
    if s.sees .blockEntry then
      match nodeUnless? [.blockEntry, .blockEnd] .item fuel s.next with
      | some (item, s) => blockItems? (item :: done) fuel s
      | none => none
    else if s.sees .blockEnd then some (.sequence done.reverse, s.next)
    else none

/-- The items of a sequence that is not indented. -/
def indentlessItems? (done : List Node) : (fuel : Nat) → Composer → Option (Node × Composer)
  | 0, _ => none
  | fuel + 1, s =>
    if s.sees .blockEntry then
      match nodeUnless? [.blockEntry, .key, .value, .blockEnd] .item fuel s.next with
      | some (item, s) => indentlessItems? (item :: done) fuel s
      | none => none
    else some (.sequence done.reverse, s)

/-- The entries of a block mapping. -/
def blockEntries? (done : List (Node × Node)) : (fuel : Nat) → Composer → Option (Node × Composer)
  | 0, _ => none
  | fuel + 1, s =>
    if s.sees .key then
      match nodeUnless? [.key, .value, .blockEnd] .field fuel s.next with
      | some (key, s) => blockValue? done key fuel s
      | none => none
    else if s.sees .blockEnd then some (.mapping done.reverse, s.next)
    else none

/-- The value of a block mapping behind its key, and the entries after it. -/
def blockValue? (done : List (Node × Node)) (key : Node) : (fuel : Nat) → Composer →
    Option (Node × Composer)
  | 0, _ => none
  | fuel + 1, s =>
    if s.sees .value then
      match nodeUnless? [.key, .value, .blockEnd] .field fuel s.next with
      | some (value, s) => blockEntries? ((key, value) :: done) fuel s
      | none => none
    else blockEntries? ((key, .empty) :: done) fuel s

/-- The items of a sequence in brackets: nothing but a closing bracket, or an item. -/
def flowItems? (done : List Node) : (fuel : Nat) → Composer → Option (Node × Composer)
  | 0, _ => none
  | fuel + 1, s =>
    if s.sees .flowSequenceEnd then some (.sequence done.reverse, s.next)
    else
      let item := if s.sees .key then pair? fuel s.next else node? .flow fuel s
      match item with
      | none => none
      | some (item, s) =>
        if s.sees .flowEntry then flowItems? (item :: done) fuel s.next
        else if s.sees .flowSequenceEnd then some (.sequence (item :: done).reverse, s.next)
        else none

/-- A mapping of one entry, written as an item in brackets. A key that is missing takes the next
token with it. -/
def pair? : (fuel : Nat) → Composer → Option (Node × Composer)
  | 0, _ => none
  | fuel + 1, s =>
    let stops : List Token := [.flowEntry, .flowSequenceEnd]
    let key :=
      if s.seesOne (.value :: stops) then some (Node.empty, s.next) else node? .flow fuel s
    match key with
    | none => none
    | some (key, s) =>
      if s.sees .value then
        match nodeUnless? stops .flow fuel s.next with
        | some (value, s) => some (.mapping [(key, value)], s)
        | none => none
      else some (.mapping [(key, .empty)], s)

/-- The entries of a mapping in brackets: nothing but a closing bracket, or an entry. -/
def flowEntries? (done : List (Node × Node)) : (fuel : Nat) → Composer → Option (Node × Composer)
  | 0, _ => none
  | fuel + 1, s =>
    if s.sees .flowMappingEnd then some (.mapping done.reverse, s.next)
    else match flowEntry? fuel s with
      | none => none
      | some (entry, s) =>
        if s.sees .flowEntry then flowEntries? (entry :: done) fuel s.next
        else if s.sees .flowMappingEnd then some (.mapping (entry :: done).reverse, s.next)
        else none

/-- An entry of a mapping in brackets. A key that is not marked as one has no value. -/
def flowEntry? : (fuel : Nat) → Composer → Option ((Node × Node) × Composer)
  | 0, _ => none
  | fuel + 1, s =>
    let stops : List Token := [.flowEntry, .flowMappingEnd]
    if s.sees .key then
      match nodeUnless? (.value :: stops) .flow fuel s.next with
      | none => none
      | some (key, s) =>
        if s.sees .value then
          match nodeUnless? stops .flow fuel s.next with
          | some (value, s) => some ((key, value), s)
          | none => none
        else some ((key, .empty), s)
    else match node? .flow fuel s with
      | some (key, s) => some ((key, .empty), s)
      | none => none

end

/-! ## Documents -/

/-- The tag handles that are always in force. -/
def defaultHandles : List (String × Bytes) :=
  [("!", Text.bytes "!"), ("!!", Text.bytes "tag:yaml.org,2002:")]

/-- Read the directives in front of a document. There is at most one version, 1.1 or 1.2, and one
expansion for a handle. -/
def directives? (version : Bool) (handles : List (String × Bytes)) : List Token →
    Option (List (String × Bytes) × List Token)
  | .versionDirective major minor :: rest =>
    if !version && major == 1 && (minor == 1 || minor == 2) then directives? true handles rest
    else none
  | .tagDirective handle expansion :: rest =>
    if (handles.lookup handle).isSome then none
    else directives? version (handles ++ [(handle, expansion)]) rest
  | rest => some (handles, rest)

/-- Whether a token starts the lines in front of a document. -/
def isPreface : Token → Bool
  | .versionDirective .. => true
  | .tagDirective .. => true
  | .documentStart => true
  | _ => false

/-- The document that starts with these tokens, under some tag handles. -/
def root? (handles : List (String × Bytes)) (tokens : List Token) : Option (Rooted × List Token) :=
  (node? .item (4 * tokens.length + 8) ⟨tokens, [], #[], handles⟩).map fun (node, s) =>
    (⟨node, s.anchors.toList⟩, s.tokens)

/-- A document without content. -/
def blank : Rooted :=
  ⟨.empty, []⟩

/-- The content of a document behind its start mark. -/
def explicit? (handles : List (String × Bytes)) (rest : List Token) :
    Option (Rooted × List Token) :=
  match rest with
  | .documentStart :: rest =>
    if rest.head?.all fun token => isPreface token || token == .documentEnd then some (blank, rest)
    else root? (handles ++ defaultHandles) rest
  | _ => none

/-- The first document. -/
def document? (tokens : List Token) : Option (Rooted × List Token) :=
  if tokens.isEmpty then some (blank, [])
  else if tokens.head?.any isPreface then do
    let (handles, rest) ← directives? false [] tokens
    explicit? handles rest
  else root? defaultHandles tokens

end Composer

namespace Rooted

/-- The last node of a document with a number. -/
def anchored? (root : Rooted) (number : Nat) : Option Node :=
  (root.anchors.reverse.find? (·.number == number)).bind (·.node)

/-- What stands in a place: a node, or what a reference in its place means. -/
def target (root : Rooted) : Node :=
  match root.node with
  | .reference number => (root.anchored? number).getD root.node
  | node => node

/-- Another node of the same document. -/
def moveTo (root : Rooted) (node : Node) : Rooted :=
  { root with node }

/-- The document of a token sequence, which must not hold a second one. -/
def ofTokens? (tokens : List Token) : Option Rooted := do
  let (root, rest) ← Composer.document? tokens
  if (rest.dropWhile (· == .documentEnd)).isEmpty then some root else none

/-- The document of a text. -/
def parse? (text : String) : Option Rooted := do
  ofTokens? (← Token.ofText? text.toList)

end Rooted

end FunctionSearch.Yaml
