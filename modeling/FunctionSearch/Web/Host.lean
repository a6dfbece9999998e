import FunctionSearch.Text.Search
import FunctionSearch.Web.Name
import FunctionSearch.Web.Percent

/-!
# Hosts

What an address names as the machine to be asked.

* `Host`: a name, or a number of 32 or of 128 bits;
* `Host.number32?`: four numbers with points between them, of which the last ones may be given as
  one;
* `Host.groups?`: eight groups of hexadecimal digits, of which zeros may be left out once;
* `Host.parse?` and `Host.text`: the host that a text names, and its text.
-/

namespace FunctionSearch.Web

/-- A machine that can be asked. -/
inductive Host where
  | name (text : List Char)
  | number32 (value : Nat)
  | number128 (groups : List Nat)
  deriving DecidableEq, Repr

namespace Host

/-! ## Numbers of 32 bits -/

/-- The value of digits to a base, if all of them are such. -/
def digits? (base : Nat) (s : List Char) : Option Nat :=
  s.foldl (fun value c => do
    let digit ← Number.hexValue? c
    if digit < base then return base * (← value) + digit else none) (some 0)

/-- The value of a part: octal behind a zero, hexadecimal behind `0x`, and else decimal. -/
def part? : List Char → Option Nat
  | [] => none
  | '0' :: 'x' :: s => digits? 16 s
  | ['0'] => some 0
  | '0' :: s => digits? 8 s
  | s => digits? 10 s

/-- The number that parts give: one byte for each but the last, which fills what is left. -/
def ofParts? (parts : List Nat) : Option Nat := do
  let last ← parts.getLast?
  let bytes := parts.dropLast
  let room := Nat.pow 256 (4 - bytes.length)
  if parts.length ≤ 4 && bytes.all (· < 256) && last < room then
    return bytes.foldl (256 * · + ·) 0 * room + last
  else none

/-- The parts of a text between points, of which the last may be followed by one. -/
def partsOf (s : List Char) : List (List Char) :=
  let parts := Text.splitWhere (· == '.') s
  if parts.getLast? == some [] then parts.dropLast else parts

/-- Whether a text can only be meant as a number: its last part is one. -/
def endsInNumber (s : List Char) : Bool :=
  match (partsOf s).getLast? with
  | none => false
  | some last => (!last.isEmpty && last.all Char.isDigit) || (part? last).isSome

/-- The number of 32 bits that a text spells. -/
def number32? (s : List Char) : Option Nat := do
  ofParts? (← (partsOf s).mapM part?)

/-! ## Numbers of 128 bits -/

/-- The value of one to four hexadecimal digits. -/
def group? (s : List Char) : Option Nat :=
  if s.isEmpty || 4 < s.length then none else digits? 16 s

/-- The value of a byte in decimal, without zeros in front. -/
def byte? (s : List Char) : Option Nat :=
  if s.isEmpty || (1 < s.length && s.head? == some '0') then none
  else (digits? 10 s).filter (· < 256)

/-- The two groups that four bytes with points between them spell. -/
def pair? (s : List Char) : Option (List Nat) := do
  let [a, b, c, d] ← (Text.splitWhere (· == '.') s).mapM byte? | none
  return [256 * a + b, 256 * c + d]

/-- The groups in a text. -/
def groupsIn? (s : List Char) : Option (List Nat) :=
  if s.isEmpty then some [] else (Text.splitWhere (· == ':') s).mapM group?

/-- The groups in a text, of which the last two may be spelled as four bytes. -/
def groupsWithPair? (s : List Char) : Option (List Nat) :=
  let parts := Text.splitWhere (· == ':') s
  match parts.getLast? with
  | some last =>
    if last.contains '.' then do
      return (← parts.dropLast.mapM group?) ++ (← pair? last)
    else groupsIn? s
  | none => none

/-- The eight groups that a text spells. Two colons stand for as many zeros as are missing, of which
there must be one. -/
def groups? (s : List Char) : Option (List Nat) :=
  match Text.splitFirst? "::".toList s with
  | none => (groupsWithPair? s).filter (·.length = 8)
  | some (before, after) => do
    let front ← groupsIn? before
    let back ← groupsWithPair? after
    let known := front.length + back.length
    if known < 8 then return front ++ List.replicate (8 - known) 0 ++ back else none

/-! ## Hosts -/

/-- The host that a text names. -/
def parse? : List Char → Option Host
  | '[' :: s => if s.getLast? == some ']' then (groups? s.dropLast).map .number128 else none
  | s => do
    let name ← Name.read? (← Percent.decodeText? s)
    if name.isEmpty then none
    else if endsInNumber name then (number32? name).map .number32
    else some (.name name)

/-- The bytes of a number, the highest first. -/
def bytesOf (value : Nat) : List Nat :=
  [value / 16777216, value / 65536 % 256, value / 256 % 256, value % 256]

/-- The longest run of zeros in groups: where it starts, and its length. Of two, the first counts.
-/
def zeros (groups : List Nat) : Nat × Nat :=
  let runs := (List.range groups.length).map fun start =>
    (start, ((groups.drop start).takeWhile (· == 0)).length)
  runs.foldl (fun best run => if best.2 < run.2 then run else best) (0, 0)

/-- The text of groups. -/
def groupsText (groups : List Nat) : List Char :=
  ((groups.map (Nat.toDigits 16)).intersperse [':']).flatten

/-- The text of a host. -/
def text : Host → List Char
  | .name text => text
  | .number32 value => (((bytesOf value).map Number.numeral).intersperse ['.']).flatten
  | .number128 groups =>
    let (start, count) := zeros groups
    if count < 2 then '[' :: groupsText groups ++ [']']
    else
      '[' :: groupsText (groups.take start) ++ "::".toList ++
        groupsText (groups.drop (start + count)) ++ [']']

end Host

end FunctionSearch.Web
