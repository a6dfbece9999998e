import FunctionSearch.Number.Decimal

/-!
# JSON values

A JSON document as it was written: object members keep their order and repetitions, numbers keep
their digits.

* `Json`: the type of documents;
* `Json.text`, `Json.natural`, `Json.record`: the values a program writes;
* `Json.field?`: the last member of an object with a given name.

A string literal can fail to denote a text, when one of its escapes names half of a surrogate pair
without the other half. Such a literal is allowed wherever nobody asks for its text, so `Literal` is
a text or nothing.
-/

namespace FunctionSearch

/-- What a string literal denotes: nothing if an escape names an unpaired surrogate. -/
abbrev Literal := Option String

/-- A JSON document. -/
inductive Json where
  | null
  | bool (b : Bool)
  /-- A number with its digits as written. -/
  | number (digits : String)
  | string (text : Literal)
  | array (items : List Json)
  | object (members : List (Literal × Json))

namespace Json

/-- A text. -/
def text (s : String) : Json :=
  .string (some s)

/-- A natural number. -/
def natural (n : Nat) : Json :=
  .number (String.ofList (Number.numeral n))

/-- An integer. -/
def integer : Int → Json
  | .ofNat n => natural n
  | .negSucc n => .number (String.ofList ('-' :: Number.numeral (n + 1)))

/-- An object with these members. -/
def record (members : List (String × Json)) : Json :=
  .object (members.map fun (name, value) => (some name, value))

/-- A value, or null in place of a missing one. -/
def orNull {α : Type} (f : α → Json) (value? : Option α) : Json :=
  (value?.map f).getD .null

/-- The member of an object with this name, the last one if there are several. -/
def field? (name : String) : Json → Option Json
  | .object members => (members.reverse.find? (·.1 == some name)).map (·.2)
  | _ => none

/-- The text of a string. -/
def text? : Json → Option String
  | .string s => s
  | _ => none

/-- The value of a number written with digits alone and without leading zeros. -/
def natural? : Json → Option Nat
  | .number digits => Number.natural? digits.toList
  | _ => none

end Json

end FunctionSearch
