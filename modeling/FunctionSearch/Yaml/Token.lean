import FunctionSearch.Text.Utf8

/-!
# YAML tokens

The smallest parts of a YAML text that mean something, with indentation already told as tokens. A
tag is a sequence of bytes, since its escapes may spell anything.
-/

namespace FunctionSearch.Yaml

/-- The ways to write a scalar: bare, between quotes, or as a block. -/
inductive ScalarStyle where
  | plain
  | quoted
  | folded
  | literal
  deriving DecidableEq, Repr

/-- A token. -/
inductive Token where
  | versionDirective (major minor : Nat)
  | tagDirective (handle : String) (expansion : Bytes)
  | documentStart
  | documentEnd
  | blockSequenceStart
  | blockMappingStart
  | blockEnd
  | flowSequenceStart
  | flowSequenceEnd
  | flowMappingStart
  | flowMappingEnd
  | blockEntry
  | flowEntry
  | key
  | value
  | reference (name : String)
  | anchor (name : String)
  | tag (handle : String) (rest : Bytes)
  | scalar (text : String) (style : ScalarStyle)
  deriving DecidableEq, Repr

end FunctionSearch.Yaml
