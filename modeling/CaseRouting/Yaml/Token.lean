/-!
# Tokens of YAML

The tokens of a text, in which indentation has become tokens of its own: where a block of items or
of keys begins and where it ends.
-/

namespace CaseRouting.Yaml

/-- How a scalar is written, as far as its meaning depends on it. -/
inductive Style where
  | plain
  | quoted
  /-- Behind a bar. -/
  | literal
  /-- Behind an angle bracket. -/
  | folded
  deriving DecidableEq, Repr

/-- A token. Those that open and close blocks stand for no characters of the text, nor does that of
a key that only its colon gives away. -/
inductive Token where
  | versionDirective (major minor : Nat)
  | tagDirective (handle expansion : List Char)
  | documentStart
  | documentEnd
  | blockSequenceStart
  | blockMappingStart
  | blockEnd
  | flowSequenceStart
  | flowSequenceEnd
  | flowMappingStart
  | flowMappingEnd
  | blockEntry
  | flowEntry
  | key
  | value
  | alias (name : List Char)
  | anchor (name : List Char)
  /-- A tag by its handle, which is empty if the tag is complete, and its suffix. -/
  | tag (handle suffix : List Char)
  | scalar (style : Style) (text : List Char)
  | streamEnd
  deriving DecidableEq, Repr

end CaseRouting.Yaml
