import HttpReactor.Yaml.Mark
/-!
# YAML tokens

The tokens of a YAML text: the markers of stream and document boundaries, the indicators that
open and close collections and separate their entries, the keys and values of mappings, anchors,
aliases, tags and scalars. Block collections have no indicator of their own in the text; their
start and end tokens are produced from the indentation.
-/

namespace HttpReactor

namespace Yaml

/-- How a scalar is written. -/
inductive ScalarStyle where
  | plain | singleQuoted | doubleQuoted | literal | folded
  deriving DecidableEq, Repr

/-- What a token is. -/
inductive TokenKind where
  | streamStart
  | streamEnd
  /-- `%YAML major.minor`. -/
  | versionDirective (major minor : Nat)
  /-- `%TAG handle expansion`. -/
  | tagDirective (handle expansion : String)
  | documentStart
  | documentEnd
  | blockSequenceStart
  | blockMappingStart
  | blockEnd
  | flowSequenceStart
  | flowSequenceEnd
  | flowMappingStart
  | flowMappingEnd
  | blockEntry
  | flowEntry
  | key
  | value
  | alias (name : String)
  | anchor (name : String)
  /-- A tag: its handle and suffix as written. -/
  | tag (handle suffix : String)
  | scalar (text : String) (style : ScalarStyle)
  deriving DecidableEq, Repr

/-- A token and where it begins and ends. -/
structure Token where
  kind : TokenKind
  start : Mark
  stop : Mark
  deriving DecidableEq, Repr

end Yaml

end HttpReactor
