import FunctionSearch.Json.Basic

/-!
# Writing JSON

* `Json.quote`: a text as a string literal;
* `Json.compact`: a document without white space;
* `Json.pretty`: a document with a line for every item and member, indented by two spaces a level.

A literal escapes the quote, the backslash and the characters below U+0020, these by a letter where
JSON has one and by their code otherwise; every other character stands for itself.
-/

namespace FunctionSearch.Json

/-- One character inside a string literal. -/
def escapeChar (c : Char) : List Char :=
  if c == '"' then ['\\', '"']
  else if c == '\\' then ['\\', '\\']
  else if c == '\x08' then ['\\', 'b']
  else if c == '\x0c' then ['\\', 'f']
  else if c == '\n' then ['\\', 'n']
  else if c == '\r' then ['\\', 'r']
  else if c == '\t' then ['\\', 't']
  else if c.toNat < 0x20 then '\\' :: 'u' :: '0' :: '0' :: Number.hexByte (UInt8.ofNat c.toNat)
  else [c]

/-- A text as a string literal. -/
def quote (s : List Char) : List Char :=
  '"' :: (s.flatMap escapeChar ++ ['"'])

/-- A literal. One that denotes no text is written as a lone surrogate, which denotes none. -/
def writeLiteral : Literal → List Char
  | some s => quote s.toList
  | none => "\"\\ud800\"".toList

mutual

/-- A document without white space. -/
def compact : Json → List Char
  | .null => "null".toList
  | .bool true => "true".toList
  | .bool false => "false".toList
  | .number digits => digits.toList
  | .string text => writeLiteral text
  | .array items => '[' :: (compactItems items ++ [']'])
  | .object members => '{' :: (compactMembers members ++ ['}'])

/-- Items with a comma between any two. -/
def compactItems : List Json → List Char
  | [] => []
  | [item] => compact item
  | item :: items => compact item ++ ',' :: compactItems items

/-- Members with a comma between any two. -/
def compactMembers : List (Literal × Json) → List Char
  | [] => []
  | [(name, item)] => writeLiteral name ++ ':' :: compact item
  | (name, item) :: members =>
    writeLiteral name ++ ':' :: (compact item ++ ',' :: compactMembers members)

end

/-- A line break and the indentation of a level. -/
def newline (level : Nat) : List Char :=
  '\n' :: List.replicate (2 * level) ' '

mutual

/-- A document laid out over lines, the lines inside it indented for the next level. -/
def layout (level : Nat) : Json → List Char
  | .array [] => ['[', ']']
  | .object [] => ['{', '}']
  | .array items => '[' :: (layoutItems (level + 1) items ++ newline level ++ [']'])
  | .object members => '{' :: (layoutMembers (level + 1) members ++ newline level ++ ['}'])
  | .null => "null".toList
  | .bool true => "true".toList
  | .bool false => "false".toList
  | .number digits => digits.toList
  | .string text => writeLiteral text

/-- Items, each on lines of its own. -/
def layoutItems (level : Nat) : List Json → List Char
  | [] => []
  | [item] => newline level ++ layout level item
  | item :: items => newline level ++ layout level item ++ ',' :: layoutItems level items

/-- Members, each on lines of its own. -/
def layoutMembers (level : Nat) : List (Literal × Json) → List Char
  | [] => []
  | [(name, item)] => newline level ++ writeLiteral name ++ ':' :: ' ' :: layout level item
  | (name, item) :: members =>
    newline level ++ writeLiteral name ++ ':' :: ' ' ::
      (layout level item ++ ',' :: layoutMembers level members)

end

/-- A document as one line of text. -/
def render (json : Json) : String :=
  String.ofList (compact json)

/-- A document laid out over lines. -/
def pretty (json : Json) : String :=
  String.ofList (layout 0 json)

end FunctionSearch.Json
