import FunctionSearch.Document.Basic
import FunctionSearch.Yaml.Node

/-!
# YAML as a document

How a YAML node answers when it is read as data. A reference answers like the node that it means.

* Every scalar is a text, whatever its quotes and its tag.
* A plain scalar is a number if it looks like one (`naturalText?`), whatever its tag; a literal
  block is one if it is tagged as an integer as well, and no other scalar is.
* A choice is a scalar, or a tag of that name in front of nothing.
* A record is a mapping. Nothing at all stands for a record without fields and for an empty list.
-/

namespace FunctionSearch.Yaml

/-! ## Scalars -/

/-- The words for nothing. -/
def isNull (text : String) : Bool :=
  ["null", "Null", "NULL", "~"].contains text

/-- The value of a digit in a base of at most sixteen. -/
def digitIn? (base : Nat) (c : Char) : Option Nat :=
  (Number.hexValue? c).filter (· < base)

/-- The value of one or more digits in a base. -/
def digitsIn? (base : Nat) (digits : List Char) : Option Nat :=
  if digits.isEmpty then none
  else digits.foldlM (fun n c => (digitIn? base c).map (base * n + ·)) 0

/-- A number behind its sign: with a mark for its base, or in decimal without leading zeros. -/
def magnitude? : List Char → Option Nat
  | '0' :: 'x' :: digits => digitsIn? 16 digits
  | '0' :: 'o' :: digits => digitsIn? 8 digits
  | '0' :: 'b' :: digits => digitsIn? 2 digits
  | '0' :: _ :: _ => none
  | digits => Number.natural? digits

/-- A number that may have a plus in front of it, but no minus, not even in front of zero. -/
def naturalText? : List Char → Option Nat
  | '+' :: rest => magnitude? rest
  | text => magnitude? text

/-- The tag of integers. -/
def integerTag : Bytes := Text.bytes "tag:yaml.org,2002:int"

/-- The tag of nothing. -/
def nullTag : Bytes := Text.bytes "tag:yaml.org,2002:null"

/-- The name of a choice that a tag spells behind an exclamation mark. -/
def choiceOf? : Bytes → Option String
  | 0x21 :: name => Text.strict? name
  | _ => none

namespace Node

/-- The scalar's text. -/
def text? : Node → Option String
  | .scalar text _ _ => some text
  | _ => none

/-- The scalar as a natural number. -/
def natural? : Node → Option Nat
  | .scalar text .plain _ => naturalText? text.toList
  | .scalar text .literal (some tag) =>
    if tag == integerTag then naturalText? text.toList else none
  | _ => none

/-- The scalar as the name of a choice. -/
def word? : Node → Option String
  | .scalar text style tag =>
    match tag.bind choiceOf? with
    | some name => if style == .plain && (text.isEmpty || isNull text) then some name else none
    | none => some text
  | _ => none

/-- Whether nothing is written at all. -/
def isBlank : Node → Bool
  | .scalar text style _ => style == .plain && text.isEmpty
  | _ => false

/-- The items of a sequence. -/
def items? : Node → Option (List Node)
  | .sequence items => some items
  | node => if node.isBlank then some [] else none

/-- The entries of a mapping. -/
def entries? : Node → Option (List (Node × Node))
  | .mapping entries => some entries
  | node => if node.isBlank then some [] else none

/-- Whether a node stands for nothing. A node that is tagged as nothing has to say so. -/
def unset? : Node → Option Bool
  | .scalar text .plain (some tag) =>
    if tag == nullTag then if isNull text then some true else none else some false
  | .scalar text .plain none => some (text.isEmpty || isNull text)
  | _ => some false

end Node

namespace Rooted

/-- The entry of a mapping, if its key is a scalar. -/
def field? (root : Rooted) (entry : Node × Node) : Option (String × Rooted) :=
  ((root.moveTo entry.1).target.text?).map (·, root.moveTo entry.2)

instance : Document Rooted where
  text? root := root.target.text?
  natural? root := root.target.natural?
  word? root := root.target.word?
  items? root := root.target.items?.map (·.map root.moveTo)
  layout? root := do return .named (← (← root.target.entries?).mapM root.field?)
  unset? root := root.target.unset?

end Rooted

end FunctionSearch.Yaml
