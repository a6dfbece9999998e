import FunctionSearch.CommandLine.Arguments
import FunctionSearch.CommandLine.LogFilter
import FunctionSearch.CommandLine.Script

/-!
# The program

`run` does what a command line asks for: the texts that are printed and the code that the program
ends with, which is 0 on success, 1 on failure and 2 where the command line asks for nothing.

What is logged at work is no part of this. It goes to the error stream as well, among the lines that
stand here, unless the log level is `off`.
-/

namespace FunctionSearch.CommandLine

/-- The version of the program. -/
def version : String := "0.1.0"

/-- The answer to a question. -/
def answer [Libraries] : Question → String
  | .help command => Libraries.help command
  | .version => s!"monocle {version}\n"

/-- What a program prints, and the code that it ends with. -/
structure Ending where
  code : Nat
  stdout : String
  stderr : String
  deriving DecidableEq, Repr

/-- The end of a command. -/
def Printed.ending {α : Type} (printed : Printed α) : Ending :=
  match printed.result with
  | .ok _ => ⟨0, printed.stdout, printed.stderr⟩
  | .error error => ⟨1, printed.stdout, printed.stderr ++ error.report⟩

/-- Count a search in which nothing was decompiled as a failure. -/
def demandFunctions (printed : Printed RunSummary) : Printed RunSummary :=
  match printed.result with
  | .ok summary =>
    if summary.nothingDecompiled then { printed with result := .error .nothingDecompiled }
    else printed
  | .error _ => printed

variable [Libraries] {σ : Type}

/-- Do what a command asks for. -/
def perform (services : Services σ) (command : Command) (world : World σ) : Ending × World σ :=
  match command with
  | .find request =>
    let (printed, world) := find services request world
    ((demandFunctions printed).ending, world)
  | .decompile request =>
    let (printed, world) := decompile services request world
    (printed.ending, world)
  | .script output => ((script world.files output).ending, world)
  | .answer question => (⟨0, answer question, ""⟩, world)

/-- The lines about the log level that are printed in front of what a command prints. -/
def notices (environment : Environment) (order : Order) : String :=
  match order.command with
  | .answer _ => ""
  | _ => LogFilter.notices environment order.logLevel

/-- Do what a command line asks for. -/
def run (services : Services σ) (words : List String) (world : World σ) : Ending × World σ :=
  match parse words with
  | .ok order =>
    let (ending, world) := perform services order.command world
    ({ ending with stderr := notices services.environment order ++ ending.stderr }, world)
  | .error _ => (⟨2, "", Libraries.usage words⟩, world)

end FunctionSearch.CommandLine
