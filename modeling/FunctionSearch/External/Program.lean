import FunctionSearch.Duration
import FunctionSearch.Files.Error
import FunctionSearch.Number.Decimal
import FunctionSearch.Text.Lines

/-!
# External programs

Other programs, started with arguments and input, watched until they end or their time is up.

* `Invocation`: what is started;
* `Behaviour`: what the outside world makes of it;
* `Launcher`: the outside world, whose state changes with every program;
* `run`: the output of a program, or why there is none;
* `shown`: a name or an argument as it is shown, which one with a zero byte is not;
* `Output.stderrTail`: the last lines of what a program said on its error stream.

A program that ends with another status than zero is no failure here.
-/

namespace FunctionSearch.External

/-- How a program ended. -/
inductive Status where
  | exited (code : Nat)
  /-- A signal ended the program, and the system may have dumped its memory. -/
  | signalled (number : Nat) (dumped : Bool := false)
  deriving DecidableEq, Repr

/-- The names of the signals from the first on. -/
def signalNames : List String :=
  ["SIGHUP", "SIGINT", "SIGQUIT", "SIGILL", "SIGTRAP", "SIGABRT", "SIGBUS", "SIGFPE", "SIGKILL",
    "SIGUSR1", "SIGSEGV", "SIGUSR2", "SIGPIPE", "SIGALRM", "SIGTERM", "SIGSTKFLT", "SIGCHLD",
    "SIGCONT", "SIGSTOP", "SIGTSTP", "SIGTTIN", "SIGTTOU", "SIGURG", "SIGXCPU", "SIGXFSZ",
    "SIGVTALRM", "SIGPROF", "SIGWINCH", "SIGIO", "SIGPWR", "SIGSYS"]

namespace Status

/-- The number of a signal, with its name if it has one. -/
def signalText (number : Nat) : String :=
  match signalNames[number - 1]? with
  | some name => s!"{number} ({name})"
  | none => s!"{number}"

/-- The text of a status. -/
def text : Status → String
  | .exited code => s!"exit status: {code}"
  | .signalled number dumped =>
    s!"signal: {signalText number}" ++ if dumped then " (core dumped)" else ""

/-- Whether a program ended as it should. -/
def isSuccess (status : Status) : Bool :=
  status == .exited 0

/-- The code with which a program ended by itself. -/
def code? : Status → Option Nat
  | .exited code => some code
  | .signalled .. => none

end Status

/-- What a program left behind when it ended. -/
structure Output where
  status : Status
  stdout : Bytes
  stderr : Bytes
  deriving DecidableEq, Repr

/-- The last `count` lines of a byte stream, joined by line feeds. -/
def tailOf (stream : Bytes) (count : Nat) : String :=
  let lines := Text.lines (Text.Utf8.decodeLossy stream)
  String.ofList (Text.unlines (lines.drop (lines.length - count)))

/-- The last `count` lines of the error stream. -/
def Output.stderrTail (output : Output) (count : Nat) : String :=
  tailOf output.stderr count

/-- A program to be started. -/
structure Invocation where
  program : Path
  arguments : List Bytes
  /-- What the program can read; without it there is nothing to read. -/
  input : Option Bytes
  limit : Option Duration
  deriving DecidableEq, Repr

/-- What becomes of a program. -/
inductive Behaviour where
  /-- The program was not started. -/
  | refused (cause : IoError)
  /-- The program was started, and it cannot be found out how it ends. -/
  | lost (cause : IoError)
  | ended (output : Output)
  /-- The program is still running when its time is up. -/
  | overdue
  deriving DecidableEq, Repr

/-- The outside world. -/
abbrev Launcher (ω : Type) := Invocation → ω → Behaviour × ω

/-- Why a program has no output. -/
inductive Failure where
  | spawn (program : String) (cause : IoError)
  | wait (program : String) (cause : IoError)
  | timeout (program : String) (limit : Duration)
  deriving DecidableEq, Repr

/-- The text of a failure. -/
def Failure.message : Failure → String
  | .spawn program cause => s!"failed to spawn {program}: {cause.message}"
  | .wait program cause => s!"failed while waiting for {program}: {cause.message}"
  | .timeout program limit =>
    s!"{program} did not finish within {limit.wholeSeconds}s and was killed"

/-- Whether a text holds a zero byte, at which it would end for the system. -/
def hasZeroByte (text : Bytes) : Bool :=
  text.contains 0

/-- A name or an argument as it is shown. Nothing is shown of one with a zero byte. -/
def shown (text : Bytes) : Bytes :=
  if hasZeroByte text then Text.bytes "<string-with-nul>" else text

/-- The name of the program as it is shown. -/
def Invocation.name (invocation : Invocation) : String :=
  Text.lossy (shown invocation.program.bytes)

/-- The output of a program that behaved in this way. -/
def outputOf (invocation : Invocation) : Behaviour → Except Failure Output
  | .refused cause => .error (.spawn invocation.name cause)
  | .lost cause => .error (.wait invocation.name cause)
  | .ended output => .ok output
  | .overdue => .error (.timeout invocation.name (invocation.limit.getD ⟨0⟩))

/-- Whether the system can take the name of the program and the arguments whole. -/
def Invocation.isWhole (invocation : Invocation) : Bool :=
  (invocation.program.bytes :: invocation.arguments).all (!hasZeroByte ·)

/-- Start a program and wait for it. -/
def run {ω : Type} (launcher : Launcher ω) (invocation : Invocation) (world : ω) :
    Except Failure Output × ω :=
  if invocation.isWhole then
    let (behaviour, world) := launcher invocation world
    (outputOf invocation behaviour, world)
  else (outputOf invocation (.refused .zeroByteArgument), world)

end FunctionSearch.External
