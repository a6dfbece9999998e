import FunctionSearch.Number.Decimal
import FunctionSearch.Pattern.Check
import FunctionSearch.Settings.Load
import FunctionSearch.World

/-!
# Log filters

What the text of a log level may say. It is a list of directives with commas between them, each of
which names a level, or a target, or a span in brackets with a field in braces, and may end in an
equals sign and a level. A field may have a value, which is a word for truth, a number or a pattern.

* `LogFilter.fieldFault?`: why a field means nothing;
* `LogFilter.State` and `LogFilter.step`: a directive, read character by character;
* `LogFilter.fault?`: why a directive means nothing;
* `LogFilter.complaints`: the lines about such directives;
* `LogFilter.notices`: the lines that a run starts with. A filter in the environment, if all of it
  means something, takes the place of the one in the command line.

White space around a directive is left out while its shape is read. Its field and the level at its
end are then looked up in the directive as it was written, at the same numbers of bytes.
-/

namespace FunctionSearch.LogFilter

/-- Why a directive means nothing. -/
inductive Fault where
  | shape
  | level
  | field (cause : Pattern.Fault)
  deriving DecidableEq, Repr

/-- The text of a fault. -/
def Fault.message : Fault → String
  | .shape => "invalid filter directive"
  | .level =>
    "error parsing level filter: expected one of \"off\", \"error\", \"warn\", \"info\", " ++
      "\"debug\", \"trace\", or a number 0-5"
  | .field .malformed => "invalid field filter: error building NFA"
  | .field .unsupported => "invalid field filter: unsupported regex feature for DFAs"

/-- The names of the levels. -/
def levelNames : List String :=
  ["off", "error", "warn", "info", "debug", "trace"]

/-- Whether a text is a level: one of the names, in any case, or the number of one. -/
def isLevel (s : List Char) : Bool :=
  (Number.count? bound64 s).any (· < levelNames.length) ||
    levelNames.contains (String.ofList (s.map Char.toLower))

/-- The text from one number of bytes to another. -/
def slice (start stop : Nat) (s : List Char) : List Char :=
  Text.Utf8.decodeLossy (((Text.Utf8.encode s).take stop).drop start)

/-- Why a field means nothing, if it does. Its value ends in front of another equals sign. -/
def fieldFault? (field : List Char) : Option Pattern.Fault :=
  match Text.splitWhere (· == '=') field with
  | _ :: value :: _ =>
    if ["true", "false"].contains (String.ofList value) || Number.isReal value then none
    else Pattern.fault? value
  | _ => none

/-- What was read of a directive. -/
inductive State where
  | start
  /-- In a name, which is that of a level or of a target. -/
  | name
  /-- In the brackets of a span. -/
  | span
  /-- In the braces of a span, which opened in front of this byte. -/
  | fields (start : Nat)
  /-- Behind the braces. -/
  | spanEnd
  /-- Behind the brackets. -/
  | target
  /-- In a level, which starts at this byte. -/
  | level (start : Nat)
  deriving DecidableEq, Repr

/-- Whether a name may start with this character. -/
def startsName (c : Char) : Bool :=
  c == '-' || c == ':' || c == '_' || Text.isAlphanumeric c

/-- Read one more character, which stands at byte `i`, of a directive that was written as `source`.
-/
def step (source : List Char) (i : Nat) (state : State) (c : Char) : Except Fault State :=
  match state, c with
  | .start, '[' => .ok .span
  | .start, c => if startsName c then .ok .name else .error .shape
  | .name, '=' => .ok (.level (i + 1))
  | .name, '[' => .ok .span
  | .name, _ => .ok .name
  | .span, ']' => .ok .target
  | .span, '\x7b' => .ok (.fields (i + 1))
  | .span, _ => .ok .span
  | .fields start, '\x7d' =>
    if start = i then .error .shape
    else match fieldFault? (slice start i source) with
      | some cause => .error (.field cause)
      | none => .ok .spanEnd
  | .fields start, _ => .ok (.fields start)
  | .spanEnd, ']' => .ok .target
  | .spanEnd, _ => .error .shape
  | .target, '=' => .ok (.level (i + 1))
  | .target, _ => .error .shape
  | .level start, _ => .ok (.level start)

/-- Read characters from byte `i` on. -/
def readFrom (source : List Char) (i : Nat) (state : State) : List Char → Except Fault State
  | [] => .ok state
  | c :: rest =>
    match step source i state c with
    | .ok state => readFrom source (i + c.utf8Size) state rest
    | .error fault => .error fault

/-- Why a directive means nothing, if it does. -/
def fault? (directive : List Char) : Option Fault :=
  match readFrom directive 0 .start (Text.trim directive) with
  | .error fault => some fault
  | .ok .name => none
  | .ok .target => none
  | .ok (.level start) =>
    let level := slice start (Text.Utf8.encode directive).length directive
    if level.isEmpty || isLevel level then none else some .level
  | .ok _ => some .shape

/-- The directives of a filter. -/
def directives (filter : String) : List (List Char) :=
  (Text.splitWhere (· == ',') filter.toList).filter (!·.isEmpty)

/-- Whether all of a filter means something. -/
def isValid (filter : String) : Bool :=
  (directives filter).all fun directive => (fault? directive).isNone

/-- The line about a directive that means nothing. -/
def complaint (directive : List Char) (fault : Fault) : String :=
  s!"ignoring `{String.ofList directive}`: {fault.message}\n"

/-- The lines about the directives of a filter that mean nothing. -/
def complaints (filter : String) : String :=
  String.join ((directives filter).filterMap fun directive =>
    (fault? directive).map (complaint directive))

theorem complaints_of_isValid {filter : String} (h : isValid filter) : complaints filter = "" := by
  have none_left : ((directives filter).filterMap fun directive =>
      (fault? directive).map (complaint directive)) = [] := by
    simpa [isValid] using h
  rw [complaints, none_left]
  rfl

/-- The variable that names a filter in the environment. -/
def filterVariable : String := "RUST_LOG"

/-- The lines that a run with this log level starts with. -/
def notices (environment : Environment) (level : String) : String :=
  if (environment filterVariable).any isValid then "" else complaints level

end FunctionSearch.LogFilter
