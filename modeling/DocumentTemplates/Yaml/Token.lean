/-!
# YAML tokens

The pieces that a YAML text falls into. Indentation shows as tokens that open and close block
collections.
-/

namespace DocumentTemplates.Yaml

/-- How a scalar was written: without quotes, as a literal block, or in another quoted form. -/
inductive ScalarStyle where
  | plain
  | literal
  | quoted
  deriving DecidableEq

/-- One piece of a YAML text. -/
inductive Token where
  | versionDirective (major minor : Nat)
  /-- A handle and the address that it stands for. -/
  | tagDirective (handle : String) (lead : List UInt8)
  | documentStart
  | documentEnd
  | blockSequenceStart
  | blockMappingStart
  | blockEnd
  | flowSequenceStart
  | flowSequenceEnd
  | flowMappingStart
  | flowMappingEnd
  | blockEntry
  | flowEntry
  | key
  | value
  | aliasOf (name : String)
  | anchor (name : String)
  /-- A handle, empty for a tag in full, and the address behind it. -/
  | tag (handle : String) (suffix : List UInt8)
  | scalar (text : String) (style : ScalarStyle)
  deriving DecidableEq

end DocumentTemplates.Yaml
