import FunctionSearch.Number.Decimal
import FunctionSearch.Text.Search

/-!
# Artifact names

A decompiled function is kept in a file named after the program, the function and the time in
seconds, `program__function__time.c`, in which every character but ASCII letters and digits,
`_`, `.`, `\`, `/` and `-` is replaced by `_`.

* `Artifact.sanitize`: the replacement;
* `Artifact.fileName`: the name that an exported function gets;
* `Artifact.parse?`: the fields of a name, or what is wrong with it.

A name that ends in a time is split at its first and at its last separator, so a function name may
hold separators, or underscores at its ends. Any other name is split from the left, and everything
behind its second field is dropped.
-/

namespace FunctionSearch.Artifact

/-- What stands between the fields of a name. -/
def separator : List Char := ['_', '_']

/-- What every name ends in. -/
def extension : List Char := ['.', 'c']

/-- The bound of the times that a name can carry. -/
def epochBound : Nat := Nat.pow 2 64

/-! ## Writing -/

/-- The characters that a name may hold. -/
def isAllowed (c : Char) : Bool :=
  c.isAlphanum || c == '_' || c == '.' || c == '\\' || c == '/' || c == '-'

/-- One character of a sanitised name. -/
def sanitizeChar (c : Char) : Char :=
  if isAllowed c then c else '_'

/-- A name with every character that is not allowed replaced by an underscore. -/
def sanitize (name : String) : String :=
  String.ofList (name.toList.map sanitizeChar)

/-- The sanitised name of the file that holds a function of a program. -/
def fileName (binary function : String) (epoch : Nat) : String :=
  sanitize (String.ofList (binary.toList ++ separator ++ function.toList ++ separator ++
    Number.numeral epoch ++ extension))

/-! ## Reading -/

/-- The fields of an artifact name. -/
structure Fields where
  binary : String
  function : String
  epoch : Option Nat
  deriving DecidableEq, Repr

/-- What is wrong with a name that is no artifact name. -/
inductive Defect where
  | missingFields
  | emptyBinary
  | emptyFunction
  deriving DecidableEq, Repr

/-- The reason why a name is refused. -/
def Defect.reason : Defect → String
  | .missingFields => "expected <binary>__<function>__<epoch>.c"
  | .emptyBinary => "empty binary name"
  | .emptyFunction => "empty function name"

/-- The text of a refused name. -/
def malformedMessage (name reason : String) : String :=
  s!"malformed artifact name '{name}': {reason}"

/-- A name less its extension, if it has it. -/
def stem (name : List Char) : List Char :=
  if extension.isSuffixOf name then name.take (name.length - extension.length) else name

/-- The fields of a stem that ends in a time. -/
def splitEpoch? (stem : List Char) : Option (List Char × List Char × Nat) :=
  match Text.splitLast? separator stem with
  | none => none
  | some (rest, last) =>
    match Number.naturalBelow? epochBound last, Text.splitFirst? separator rest with
    | some epoch, some (binary, function) => some (binary, function, epoch)
    | _, _ => none

/-- The first two fields of a stem. -/
def splitFields? (stem : List Char) : Option (List Char × List Char) :=
  match Text.splitFirst? separator stem with
  | none => none
  | some (binary, rest) =>
    match Text.splitFirst? separator rest with
    | none => some (binary, rest)
    | some (function, _) => some (binary, function)

/-- The fields of a stem, and the time if it ends in one. -/
def split? (stem : List Char) : Option (List Char × List Char × Option Nat) :=
  match splitEpoch? stem with
  | some (binary, function, epoch) => some (binary, function, some epoch)
  | none => (splitFields? stem).map fun (binary, function) => (binary, function, none)

/-- The fields of an artifact name. -/
def parse? (name : String) : Except Defect Fields :=
  match split? (stem name.toList) with
  | none => .error .missingFields
  | some (binary, function, epoch) =>
    if binary.isEmpty then .error .emptyBinary
    else if function.isEmpty then .error .emptyFunction
    else .ok ⟨String.ofList binary, String.ofList function, epoch⟩

end FunctionSearch.Artifact
