/-!
# Tokens of a YAML text
-/

namespace Touchpad.Yaml

/-- How a scalar is written. -/
inductive ScalarStyle where
  | plain
  | singleQuoted
  | doubleQuoted
  | literal
  | folded
  deriving DecidableEq, Repr

/-- A scalar: its text, and how it is written. -/
structure Scalar where
  style : ScalarStyle
  text : String
  deriving DecidableEq, Repr

/-- A tag as it is written: a handle, and what follows it. Its characters are octets. -/
structure TagName where
  handle : List Char
  suffix : List Char
  deriving DecidableEq, Repr

/-- A token. The end of a block collection has no text of its own: it is where indentation ends. -/
inductive Token where
  | versionDirective (major minor : Nat)
  | tagDirective (handle replacement : List Char)
  | documentStart
  | documentEnd
  | blockSequenceStart
  | blockMappingStart
  | blockEnd
  | flowSequenceStart
  | flowSequenceEnd
  | flowMappingStart
  | flowMappingEnd
  | blockEntry
  | flowEntry
  | key
  | value
  | aliasOf (name : List Char)
  | anchor (name : List Char)
  | tag (name : TagName)
  | scalar (scalar : Scalar)
  deriving DecidableEq, Repr

end Touchpad.Yaml
