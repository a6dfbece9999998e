import FunctionSearch.Duration
import FunctionSearch.Files.Tree

/-!
# Worlds

All that a run can see and change from the outside.

* `World`: the files, the time, and the state of the programs and servers that are talked to;
* `Environment`: the variables of the environment, which nothing changes;
* `temporaryDirectory`: where scratch directories are made;
* `searchDirectories`: where programs are looked for.
-/

namespace FunctionSearch

/-- The outside of a run. -/
structure World (σ : Type) where
  files : FileTree
  /-- The time since the start of 1970. -/
  clock : Duration
  /-- The state of everything else. -/
  outside : σ

/-- The variables of the environment. -/
abbrev Environment := String → Option String

/-- The directory for temporary files. -/
def temporaryDirectory (environment : Environment) : Path :=
  .ofString ((environment "TMPDIR").getD "/tmp")

/-- The directories that a search path lists. -/
def searchDirectories (environment : Environment) : List Path :=
  match environment "PATH" with
  | some directories => (Text.splitWhere (· == (0x3A : UInt8)) (Text.bytes directories)).map (⟨·⟩)
  | none => []

end FunctionSearch
