import FunctionSearch.Files.ErrorText
import FunctionSearch.Files.Path

/-!
# Failures of file operations

* `IoError`: why a file operation failed;
* `IoError.message`: its text, which ends in the number of the error where the system gave one.
-/

namespace FunctionSearch

/-- Why a file operation failed. -/
inductive IoError where
  /-- The system refused, with this error number. -/
  | system (code : Nat)
  /-- A path holds a zero byte. -/
  | zeroByte
  /-- An argument for a program holds a zero byte. -/
  | zeroByteArgument
  /-- The content was asked for as text and is not well formed. -/
  | notUtf8
  /-- A failure, with the path that it is about. -/
  | about (path : Path) (cause : IoError)
  deriving DecidableEq, Repr

namespace IoError

/-- A name on the way does not exist. -/
def notFound : IoError := .system 2

/-- A file may not be read, or cannot be run. -/
def accessDenied : IoError := .system 13

/-- The name is taken. -/
def exists_ : IoError := .system 17

/-- A name on the way is not a directory. -/
def notDirectory : IoError := .system 20

/-- A directory stands where a file is wanted. -/
def isDirectory : IoError := .system 21

/-- A name or a path is too long. -/
def nameTooLong : IoError := .system 36

/-- A path leads through too many symbolic links. -/
def tooManyLinks : IoError := .system 40

/-- A file that is to be run is no program. -/
def notProgram : IoError := .system 8

/-- The text of a failure. -/
def message : IoError → String
  | .system code => s!"{Files.errorText code} (os error {code})"
  | .zeroByte => "file name contained an unexpected NUL byte"
  | .zeroByteArgument => "nul byte found in provided data"
  | .notUtf8 => "stream did not contain valid UTF-8"
  | .about path cause => s!"{cause.message} at path {path.quoted}"

end IoError

end FunctionSearch
