import FunctionSearch.Document.Basic
import FunctionSearch.Json.Basic

/-!
# JSON as a document

How a JSON value answers when it is read as data: a record is an object or an array, a choice is a
string or an object whose one member is the choice with the value null.
-/

namespace FunctionSearch.Json

/-- The members of an object, if all their names are texts. -/
def namedMembers? (members : List (Literal × Json)) : Option (List (String × Json)) :=
  members.mapM fun (name, value) => name.map (·, value)

instance : Document Json where
  text? := text?
  natural? := natural?
  word?
    | .string s => s
    | .object [(name, .null)] => name
    | _ => none
  items?
    | .array items => some items
    | _ => none
  layout?
    | .object members => (namedMembers? members).map .named
    | .array items => some (.positional items)
    | _ => none
  unset?
    | .null => some true
    | _ => some false

end FunctionSearch.Json
