import FunctionSearch.CommandLine.Decompile
import FunctionSearch.CommandLine.Find

/-!
# Arguments

What the words of a command line ask for.

* `Argument`: one word: an option, with a value attached or without, or plain text;
* `Grammar` and `scan`: the options that stand before the next plain word;
* `Command`, `Order` and `parse`: a whole command line.

An option has its value attached by an equals sign or as the next word, which then must not look
like an option itself, and it stands at most once. Two dashes alone end the options, and nothing may
follow them, since no command takes plain words.
-/

namespace FunctionSearch.CommandLine

/-- Why a command line asks for nothing. -/
inductive UsageError where
  | noCommand
  | unknownCommand (word : String)
  | unexpected (argument : String)
  | repeated (option : String)
  | missingValue (option : String)
  | needlessValue (option : String)
  | invalidValue (option value : String)
  | missingOption (option : String)
  deriving DecidableEq, Repr

/-! ## Words -/

/-- A word of a command line. -/
inductive Argument where
  | long (name : String) (attached : Option String)
  | short (letters : List Char)
  /-- Two dashes alone. -/
  | terminator
  | plain (text : String)
  deriving DecidableEq, Repr

/-- A long option, given what stands behind its dashes. -/
def Argument.ofLong (body : List Char) : Argument :=
  match Text.splitFirst? ['='] body with
  | some (name, value) => .long (String.ofList name) (some (String.ofList value))
  | none => .long (String.ofList body) none

/-- What a word is. A single dash is plain text. -/
def Argument.ofWord (word : String) : Argument :=
  match word.toList with
  | ['-'] => .plain word
  | ['-', '-'] => .terminator
  | '-' :: '-' :: body => .ofLong body
  | '-' :: letters => .short letters
  | _ => .plain word

/-! ## Options -/

/-- What an option takes. -/
inductive OptionKind where
  | switch
  | text
  /-- A path, which must not be empty. -/
  | path
  /-- A number of 64 bits. -/
  | count
  deriving DecidableEq, Repr

/-- Whether an option takes this value. -/
def OptionKind.accepts (kind : OptionKind) (value : String) : Bool :=
  match kind with
  | .switch => false
  | .text => true
  | .path => !value.isEmpty
  | .count => (Number.count? bound64 value.toList).isSome

/-- A question that is answered in place of a command. -/
inductive Question where
  /-- The help on one command, or on the program. -/
  | help (command : Option String)
  | version
  deriving DecidableEq, Repr

/-- The options that may stand in a place, and the questions, by letter and by name. -/
structure Grammar where
  options : List (String × OptionKind)
  questions : List (Char × String × Question)
  deriving DecidableEq, Repr

/-- The question that a letter asks. -/
def Grammar.questionOf? (grammar : Grammar) (letters : List Char) : Option Question := do
  let letter ← letters.head?
  (grammar.questions.lookup letter).map (·.2)

/-- The question that a name asks. -/
def Grammar.questionNamed? (grammar : Grammar) (name : String) : Option Question :=
  (grammar.questions.map (·.2)).lookup name

/-- The options of a command line with their values. -/
abbrev Values := List (String × String)

/-- What stands before the next plain word. -/
inductive Scanned where
  | options (values : Values) (rest : List String)
  | asked (question : Question)
  deriving DecidableEq, Repr

/-- The values with one more. -/
def Values.add (values : Values) (name : String) (kind : OptionKind) (value : String) :
    Except UsageError Values :=
  if kind.accepts value then .ok ((name, value) :: values)
  else .error (.invalidValue name value)

/-- Read options up to the next plain word. -/
def scan (grammar : Grammar) (values : Values) : List String → Except UsageError Scanned
  | [] => .ok (.options values [])
  | word :: rest =>
    match Argument.ofWord word with
    | .plain _ => .ok (.options values (word :: rest))
    | .terminator =>
      match rest with
      | [] => .ok (.options values [])
      | next :: _ => .error (.unexpected next)
    | .short letters =>
      match grammar.questionOf? letters with
      | some question => .ok (.asked question)
      | none => .error (.unexpected word)
    | .long name attached =>
      match grammar.questionNamed? name, attached with
      | some question, none => .ok (.asked question)
      | some _, some _ => .error (.needlessValue name)
      | none, attached =>
        match grammar.options.lookup name with
        | none => .error (.unexpected word)
        | some kind =>
          if (values.lookup name).isSome then .error (.repeated name)
          else match kind, attached with
            | .switch, none => scan grammar ((name, "") :: values) rest
            | .switch, some _ => .error (.needlessValue name)
            | kind, some value =>
              match values.add name kind value with
              | .ok values => scan grammar values rest
              | .error error => .error error
            | kind, none =>
              match rest with
              | [] => .error (.missingValue name)
              | next :: rest =>
                match Argument.ofWord next with
                | .plain value =>
                  match values.add name kind value with
                  | .ok values => scan grammar values rest
                  | .error error => .error error
                | _ => .error (.missingValue name)

/-! ## Commands -/

/-- What a command line asks for. -/
inductive Command where
  | find (request : FindRequest)
  | decompile (request : DecompileRequest)
  | script (output : Path)
  | answer (question : Question)
  deriving DecidableEq, Repr

/-- The question for help on a command, or on the program. -/
def helpQuestion (command : Option String) : Char × String × Question :=
  ('h', "help", .help command)

/-- The option that may stand everywhere. -/
def logLevel : String × OptionKind := ("log-level", .text)

/-- What may stand before a command. -/
def topGrammar : Grammar where
  options := [logLevel]
  questions := [helpQuestion none, ('V', "version", .version)]

/-- What may stand behind a command with these options. -/
def commandGrammar (command : String) (options : List (String × OptionKind)) : Grammar where
  options := logLevel :: options
  questions := [helpQuestion command]

/-- The options on the decompiler. -/
def decompilerOptions : List (String × OptionKind) :=
  [("config", .path), ("headless", .path), ("jobs", .count)]

/-- The options of the find command. -/
def findOptions : List (String × OptionKind) :=
  [("binary", .path), ("find", .text)] ++ decompilerOptions ++
    [("endpoint", .text), ("model", .text), ("model-command", .text), ("json", .switch),
      ("keep-output", .path)]

/-- The options of the decompile command. -/
def decompileOptions : List (String × OptionKind) :=
  [("input", .path), ("output", .path)] ++ decompilerOptions ++ [("json", .switch)]

/-- The options of the script command. -/
def scriptOptions : List (String × OptionKind) :=
  [("output-dir", .path)]

namespace Values

/-- The value of an option that must be there. -/
def required (values : Values) (name : String) : Except UsageError String :=
  match values.lookup name with
  | some value => .ok value
  | none => .error (.missingOption name)

/-- The path of an option. -/
def path? (values : Values) (name : String) : Option Path :=
  (values.lookup name).map Path.ofString

/-- The overrides among the options. -/
def overrides (values : Values) : Settings.Overrides where
  headless := values.path? "headless"
  jobs := (values.lookup "jobs").bind fun digits => Number.count? bound64 digits.toList
  endpoint := values.lookup "endpoint"
  model := values.lookup "model"
  modelCommand := values.lookup "model-command"

/-- Whether a switch is there. -/
def has (values : Values) (name : String) : Bool :=
  (values.lookup name).isSome

/-- The find command with these options. -/
def toFind (values : Values) : Except UsageError Command := do
  return .find {
    target := .ofString (← values.required "binary")
    description := ← values.required "find"
    config := values.path? "config"
    overrides := values.overrides
    json := values.has "json"
    keepOutput := values.path? "keep-output" }

/-- The decompile command with these options. -/
def toDecompile (values : Values) : Except UsageError Command := do
  return .decompile {
    input := .ofString (← values.required "input")
    output := .ofString (← values.required "output")
    config := values.path? "config"
    overrides := values.overrides
    json := values.has "json" }

/-- The script command with these options. -/
def toScript (values : Values) : Except UsageError Command := do
  return .script (.ofString (← values.required "output-dir"))

end Values

/-- A command and how much of what it does is to be logged. -/
structure Order where
  command : Command
  logLevel : String
  deriving DecidableEq, Repr

/-- The log level where none is given. -/
def defaultLogLevel : String := "warn"

/-- The log level among the options. -/
def Values.logLevel (values : Values) : String :=
  (values.lookup "log-level").getD defaultLogLevel

/-- A question in place of a command. -/
def Order.asking (question : Question) : Order :=
  ⟨.answer question, defaultLogLevel⟩

/-- A command, given what may stand behind it and what its options make of it. An option behind the
command counts more than the same option in front of it. -/
def orderOf (command : String) (options : List (String × OptionKind))
    (build : Values → Except UsageError Command) (before : Values) (words : List String) :
    Except UsageError Order := do
  match ← scan (commandGrammar command options) [] words with
  | .asked question => return .asking question
  | .options values [] => return ⟨← build values, (values ++ before).logLevel⟩
  | .options _ (word :: _) => throw (.unexpected word)

/-- The words that name a command. -/
def commandNames : List String := ["find", "decompile", "script", "help"]

/-- The question for help on commands. -/
def helpOn : List String → Except UsageError Order
  | [] => .ok (.asking (.help none))
  | [name] =>
    if commandNames.contains name then .ok (.asking (.help name)) else .error (.unknownCommand name)
  | _ :: word :: _ => .error (.unknownCommand word)

/-- What a command line asks for. -/
def parse (words : List String) : Except UsageError Order := do
  match ← scan topGrammar [] words with
  | .asked question => return .asking question
  | .options _ [] => throw .noCommand
  | .options values ("find" :: rest) => orderOf "find" findOptions Values.toFind values rest
  | .options values ("decompile" :: rest) =>
    orderOf "decompile" decompileOptions Values.toDecompile values rest
  | .options values ("script" :: rest) => orderOf "script" scriptOptions Values.toScript values rest
  | .options _ ("help" :: rest) => helpOn rest
  | .options _ (word :: _) => throw (.unknownCommand word)

end FunctionSearch.CommandLine
