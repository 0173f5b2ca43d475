/-!
# YAML tokens

The scanner cuts a YAML text into tokens; the parser builds nodes from them.
Block structure, which the text gives by indentation, arrives as explicit
tokens: a block collection opens with a start token and closes with a block
end, as a flow collection opens and closes with its brackets.
-/

namespace Warden.Yaml

/-- How a scalar was written. -/
inductive Style where
  | plain
  | singleQuoted
  | doubleQuoted
  | literal
  | folded
  deriving Repr, DecidableEq, Inhabited

/-- A token of a YAML text. -/
inductive Token where
  | streamStart
  | streamEnd
  | versionDirective (major minor : Nat)
  | tagDirective (handle pfx : String)
  | documentStart
  | documentEnd
  | blockSequenceStart
  | blockMappingStart
  | blockEnd
  | flowSequenceStart
  | flowSequenceEnd
  | flowMappingStart
  | flowMappingEnd
  | blockEntry
  | flowEntry
  | key
  | value
  | alias (name : String)
  | anchor (name : String)
  | tag (handle suffix : String)
  | scalar (text : String) (style : Style)
  deriving Repr, DecidableEq, Inhabited

end Warden.Yaml
