/-!
# Documents

What a structured document answers when it is read as data of a known shape, whatever notation it is
written in.

* `Document`: the questions that a value of a document answers;
* `Layout`: a record, with its fields by name or in order;
* `Layout.columns?`: the values of a record lined up with the names of its fields;
* `required`, `optional`, `withDefault`: readings of one field.

A reading that fails gives nothing at all: no caller needs the reason.
-/

namespace FunctionSearch

/-- The fields of a record. -/
inductive Layout (δ : Type) where
  | named (fields : List (String × δ))
  | positional (values : List δ)

/-- The readings of a value of type `δ`. -/
class Document (δ : Type) where
  /-- The value as a text. -/
  text? : δ → Option String
  /-- The value as a natural number. -/
  natural? : δ → Option Nat
  /-- The value as the name of a choice. -/
  word? : δ → Option String
  /-- The value as a list. -/
  items? : δ → Option (List δ)
  /-- The value as a record. -/
  layout? : δ → Option (Layout δ)
  /-- Whether the value says that there is none. -/
  unset? : δ → Option Bool

namespace Document

variable {δ α : Type}

/-- The value of the field with this name: none if it is missing, and no answer if it is there
twice. -/
def fieldNamed? (fields : List (String × δ)) (name : String) : Option (Option δ) :=
  match fields.filter (·.1 == name) with
  | [] => some none
  | [field] => some (some field.2)
  | _ => none

/-- The values of a record for the fields with these names, in this order. Fields of other names do
not matter; a record in order may be short, but not too long. -/
def columns? (names : List String) : Layout δ → Option (List (Option δ))
  | .named fields => names.mapM (fieldNamed? fields)
  | .positional values =>
    if values.length ≤ names.length then
      some (values.map some ++ List.replicate (names.length - values.length) none)
    else none

/-- The same for a record that must not be short when it is in order. -/
def allColumns? (names : List String) : Layout δ → Option (List (Option δ))
  | .named fields => columns? names (.named fields)
  | .positional values =>
    if values.length = names.length then some (values.map some) else none

variable [Document δ]

/-- A natural number below a bound. -/
def naturalBelow? (bound : Nat) (value : δ) : Option Nat :=
  (natural? value).filter (· < bound)

/-- A list of texts. -/
def texts? (value : δ) : Option (List String) := do
  (← items? value).mapM text?

/-- A reading of a value that may say that there is none. -/
def optional (read : δ → Option α) (value : δ) : Option (Option α) := do
  if ← unset? value then return none else return some (← read value)

/-- A reading of a field that has to be there. -/
def required (read : δ → Option α) (field : Option δ) : Option α :=
  field.bind read

/-- A reading of a field that has a value of its own when it is missing. -/
def withDefault (fallback : α) (read : δ → Option α) : Option δ → Option α
  | none => some fallback
  | some value => read value

end Document

end FunctionSearch
