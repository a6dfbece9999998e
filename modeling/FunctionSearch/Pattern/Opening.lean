import FunctionSearch.Pattern.Modes
import FunctionSearch.Text.Alphanumeric

/-!
# What a round bracket opens

* `Opening`: a group, which may have a name, or a change of the modes for all that follows;
* `Opening.isName`: the names of groups;
* `Opening.flags?`: letters that change the modes, behind a hyphen to the contrary;
* `Opening.read?`: what stands behind a round bracket, and what follows it.

Groups that look ahead or back are not to be had.
-/

namespace FunctionSearch.Pattern

/-- What a round bracket opens. -/
inductive Opening where
  | group (modes : Modes) (name : Option (List Char))
  | setting (modes : Modes)
  deriving DecidableEq, Repr

namespace Opening

/-- Whether a name may go on with this character. -/
def continuesName (c : Char) : Bool :=
  "_.[]".toList.contains c || Text.isAlphanumeric c

/-- Whether a text is the name of a group. -/
def isName : List Char → Bool
  | [] => false
  | c :: s => (c == '_' || Text.isAlphabetic c) && s.all continuesName

/-- The letters of the modes; those of most have no bearing on what a pattern may say. -/
def letters : List Char := "imsUuRx".toList

/-- The modes behind a letter. -/
def change (modes : Modes) (letter : Char) (value : Bool) : Modes :=
  if letter == 'x' then { modes with isVerbose := value }
  else if letter == 'u' then { modes with isUnicode := value }
  else modes

/-- Read letters up to a colon or the closing bracket; `seen` holds, in reverse, those that were
read. None may be there twice, nor the hyphen, and a letter must follow the hyphen. -/
def flagsFrom? (seen : List Char) (modes : Modes) : List Char → Option (Opening × List Char)
  | [] => none
  | ':' :: s => if seen.head? == some '-' then none else some (.group modes none, s)
  | ')' :: s =>
    if seen.isEmpty || seen.head? == some '-' then none else some (.setting modes, s)
  | c :: s =>
    if seen.contains c || !(c == '-' || letters.contains c) then none
    else flagsFrom? (c :: seen) (change modes c (!seen.contains '-')) s

/-- A group with a name that no other one has. -/
def named? (modes : Modes) (taken : List (List Char)) (s : List Char) :
    Option (Opening × List Char) :=
  let name := s.takeWhile (· != '>')
  match s.drop name.length with
  | _ :: rest =>
    if isName name && !taken.contains name then some (.group modes (some name), rest) else none
  | [] => none

/-- What stands behind a round bracket, and what follows it. -/
def read? (modes : Modes) (taken : List (List Char)) (s : List Char) :
    Option (Opening × List Char) :=
  match modes.skip s with
  | '?' :: 'P' :: '<' :: rest => named? modes taken rest
  | '?' :: '<' :: rest => named? modes taken rest
  | '?' :: rest => flagsFrom? [] modes rest
  | rest => some (.group modes none, rest)

end Opening

end FunctionSearch.Pattern
