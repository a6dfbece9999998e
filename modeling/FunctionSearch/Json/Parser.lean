import FunctionSearch.Json.Basic

/-!
# Reading JSON

The grammar of RFC 8259 over characters, without extensions: no comments, no trailing commas, no
leading zeros, no byte order mark, and no control character inside a string.

* `Json.units`: a string literal as UTF-16 code units and unescaped characters;
* `Json.ofUnits?`: the text of these, with surrogates paired;
* `Json.value`: a value at the front of a text;
* `Json.parse?`: a whole document.

Every call of the mutual parsers spends a unit of fuel. Two units for each character are enough,
since between two openings of a value a bracket or a comma is consumed; `parse?` provides them.
-/

namespace FunctionSearch.Json

/-- White space between tokens. -/
def isSpace (c : Char) : Bool :=
  c == ' ' || c == '\t' || c == '\n' || c == '\r'

/-- A text less the white space in front. -/
def skipSpace (s : List Char) : List Char :=
  s.dropWhile isSpace

/-- The code unit named by four hexadecimal digits. -/
def hex4? (a b c d : Char) : Option Nat := do
  let a ← Number.hexValue? a
  let b ← Number.hexValue? b
  let c ← Number.hexValue? c
  let d ← Number.hexValue? d
  return ((a * 16 + b) * 16 + c) * 16 + d

/-- The character that a backslash and a letter stand for. -/
def escape? : Char → Option Char
  | '"' => some '"'
  | '\\' => some '\\'
  | '/' => some '/'
  | 'b' => some '\x08'
  | 'f' => some '\x0c'
  | 'n' => some '\n'
  | 'r' => some '\r'
  | 't' => some '\t'
  | _ => none

/-- Read a string literal up to and with its closing quote: the values of its characters and
escapes, surrogates unpaired, and what follows. `done` holds, in reverse, what was read before. -/
def units (done : List Nat) : List Char → Option (List Nat × List Char)
  | [] => none
  | '"' :: rest => some (done.reverse, rest)
  | '\\' :: 'u' :: a :: b :: c :: d :: rest =>
    match hex4? a b c d with
    | some n => units (n :: done) rest
    | none => none
  | '\\' :: e :: rest =>
    match escape? e with
    | some c => units (c.toNat :: done) rest
    | none => none
  | c :: rest => if c.toNat < 0x20 || c == '\\' then none else units (c.toNat :: done) rest

/-- Whether a value is the first half of a surrogate pair. -/
def isHigh (n : Nat) : Bool := 0xD800 ≤ n && n < 0xDC00

/-- Whether a value is the second half of a surrogate pair. -/
def isLow (n : Nat) : Bool := 0xDC00 ≤ n && n < 0xE000

/-- Pair up the surrogates; `done` holds, in reverse, the characters before. -/
def pairUp (done : List Char) : List Nat → Option (List Char)
  | [] => some done.reverse
  | [n] => if isHigh n || isLow n then none else some (Char.ofNat n :: done).reverse
  | n :: m :: rest =>
    if isHigh n then
      if isLow m then
        pairUp (Char.ofNat (0x10000 + (n - 0xD800) * 0x400 + (m - 0xDC00)) :: done) rest
      else none
    else if isLow n then none
    else pairUp (Char.ofNat n :: done) (m :: rest)

/-- The text that these values spell, if every surrogate is one of a pair. -/
def ofUnits? (units : List Nat) : Literal :=
  (pairUp [] units).map String.ofList

/-- A string literal behind its opening quote. -/
def literal (s : List Char) : Option (Literal × List Char) :=
  (units [] s).map fun (read, rest) => (ofUnits? read, rest)

/-- One or more digits. -/
def digits1 (s : List Char) : Option (List Char × List Char) :=
  match s.takeWhile Char.isDigit with
  | [] => none
  | run => some (run, s.dropWhile Char.isDigit)

/-- The whole part of a number: a lone zero, or digits that do not start with zero. -/
def wholePart : List Char → Option (List Char × List Char)
  | '0' :: rest => some (['0'], rest)
  | s => digits1 s

/-- The fraction of a number, if there is one. -/
def fractionPart : List Char → Option (List Char × List Char)
  | '.' :: rest => (digits1 rest).map fun (run, rest) => ('.' :: run, rest)
  | s => some ([], s)

/-- The exponent of a number, if there is one. -/
def exponentPart : List Char → Option (List Char × List Char)
  | e :: rest =>
    if e == 'e' || e == 'E' then
      match rest with
      | sign :: after =>
        if sign == '+' || sign == '-' then
          (digits1 after).map fun (run, rest) => (e :: sign :: run, rest)
        else (digits1 rest).map fun (run, rest) => (e :: run, rest)
      | [] => none
    else some ([], e :: rest)
  | [] => some ([], [])

/-- A number without its sign. -/
def magnitude (s : List Char) : Option (List Char × List Char) := do
  let (whole, s) ← wholePart s
  let (fraction, s) ← fractionPart s
  let (exponent, s) ← exponentPart s
  return (whole ++ fraction ++ exponent, s)

/-- A number. -/
def numberValue : List Char → Option (Json × List Char)
  | '-' :: rest =>
    (magnitude rest).map fun (run, rest) => (.number (String.ofList ('-' :: run)), rest)
  | s => (magnitude s).map fun (run, rest) => (.number (String.ofList run), rest)

/-- A value that is neither a string nor a number and has no parts. -/
def word : List Char → Option (Json × List Char)
  | 'n' :: 'u' :: 'l' :: 'l' :: rest => some (.null, rest)
  | 't' :: 'r' :: 'u' :: 'e' :: rest => some (.bool true, rest)
  | 'f' :: 'a' :: 'l' :: 's' :: 'e' :: rest => some (.bool false, rest)
  | _ => none

mutual

/-- A value at the front of a text, behind white space, and what follows it. -/
def value : (fuel : Nat) → List Char → Option (Json × List Char)
  | 0, _ => none
  | fuel + 1, s =>
    match skipSpace s with
    | [] => none
    | '"' :: rest => (literal rest).map fun (text, rest) => (.string text, rest)
    | '[' :: rest =>
      match skipSpace rest with
      | ']' :: rest => some (.array [], rest)
      | _ => items fuel [] rest
    | '{' :: rest =>
      match skipSpace rest with
      | '}' :: rest => some (.object [], rest)
      | _ => members fuel [] rest
    | c :: rest => if c == '-' || c.isDigit then numberValue (c :: rest) else word (c :: rest)

/-- The items of an array from here to its closing bracket; `done` holds those before in reverse. -/
def items : (fuel : Nat) → (done : List Json) → List Char → Option (Json × List Char)
  | 0, _, _ => none
  | fuel + 1, done, s =>
    match value fuel s with
    | none => none
    | some (item, rest) =>
      match skipSpace rest with
      | ',' :: rest => items fuel (item :: done) rest
      | ']' :: rest => some (.array (item :: done).reverse, rest)
      | _ => none

/-- The members of an object from here to its closing brace; `done` holds those before in
reverse. -/
def members : (fuel : Nat) → (done : List (Literal × Json)) → List Char →
    Option (Json × List Char)
  | 0, _, _ => none
  | fuel + 1, done, s =>
    match skipSpace s with
    | '"' :: rest =>
      match literal rest with
      | none => none
      | some (name, rest) =>
        match skipSpace rest with
        | ':' :: rest =>
          match value fuel rest with
          | none => none
          | some (item, rest) =>
            match skipSpace rest with
            | ',' :: rest => members fuel ((name, item) :: done) rest
            | '}' :: rest => some (.object ((name, item) :: done).reverse, rest)
            | _ => none
        | _ => none
    | _ => none

end

/-- A whole document: one value with nothing but white space around it. -/
def parse? (s : String) : Option Json :=
  let cs := s.toList
  match value (2 * cs.length + 2) cs with
  | some (json, rest) => if (skipSpace rest).isEmpty then some json else none
  | none => none

end FunctionSearch.Json
