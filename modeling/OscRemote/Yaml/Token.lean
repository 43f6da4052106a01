import OscRemote.Octets

/-!
# Tokens

A document as a sequence of tokens: its marks and directives, the brackets of collections (those of
block collections follow from the indentation), the signs in front of keys, values and entries, and
the scalars with what may stand before them.
-/

namespace OscRemote.Yaml

/-- How a scalar is written. -/
inductive Style where
  | plain
  | singleQuoted
  | doubleQuoted
  | literal
  | folded
deriving DecidableEq, Repr

/-- A token. -/
inductive Token where
  | versionDirective (major minor : Nat)
  | tagDirective (handle : List Char) (lead : Octets)
  | documentStart
  | documentEnd
  | blockSequenceStart
  | blockMappingStart
  | blockEnd
  | flowSequenceStart
  | flowSequenceEnd
  | flowMappingStart
  | flowMappingEnd
  | blockEntry
  | flowEntry
  | key
  | value
  | alias (name : List Char)
  | anchor (name : List Char)
  | tag (handle : List Char) (rest : Octets)
  | scalar (text : List Char) (style : Style)
deriving DecidableEq, Repr

end OscRemote.Yaml
