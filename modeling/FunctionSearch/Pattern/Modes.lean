import FunctionSearch.Text.Blank

/-!
# Modes of patterns

How the text of a pattern is to be read, which a pattern itself can change from one place on.

* `Modes`: the two modes that decide what a pattern may say;
* `Modes.skip`: a text less the white space and the comments at its start, where these do not count;
* `Modes.peek`: the character that comes next where these do not count.
-/

namespace FunctionSearch.Pattern

/-- How a pattern is read. -/
structure Modes where
  /-- White space and comments do not count. -/
  isVerbose : Bool := false
  /-- A pattern is about characters, and not about bytes. -/
  isUnicode : Bool := true
  deriving DecidableEq, Repr

/-- A text less the white space and the comments at its start. A comment ends with its line. -/
def skipBlanks (inComment : Bool) : List Char → List Char
  | [] => []
  | c :: s =>
    if inComment then skipBlanks (c != '\n') s
    else if Text.isBlank c then skipBlanks false s
    else if c == '#' then skipBlanks true s
    else c :: s

/-- The first character that is not white space, or the first of a comment that is not. -/
def peekBlanks (inComment : Bool) : List Char → Option Char
  | [] => none
  | c :: s =>
    if Text.isBlank c then peekBlanks inComment s
    else if c == '#' && !inComment then peekBlanks true s
    else some c

namespace Modes

/-- A text less what does not count at its start. -/
def skip (modes : Modes) (s : List Char) : List Char :=
  if modes.isVerbose then skipBlanks false s else s

/-- The character that comes next. Of a text in which nothing counts it is the first. -/
def peek (modes : Modes) (s : List Char) : Option Char :=
  if modes.isVerbose then (peekBlanks false s).or s.head? else s.head?

end Modes

end FunctionSearch.Pattern
