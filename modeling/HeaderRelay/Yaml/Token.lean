import HeaderRelay.Text.Utf8

set_option autoImplicit false

namespace HeaderRelay.Yaml

inductive Style
  | plain
  | single
  | double
  | literal
  | folded
  deriving DecidableEq, Repr

inductive Token
  /-- The version of the language that a document follows. -/
  | version (major minor : Nat)
  /-- What a handle of tags stands for in a document. -/
  | handle (name : String) (meaning : Bytes)
  | documentStart
  | documentEnd
  | blockSequenceStart
  | blockMappingStart
  | blockEnd
  | flowSequenceStart
  | flowSequenceEnd
  | flowMappingStart
  | flowMappingEnd
  | blockEntry
  | flowEntry
  | key
  | value
  | alias (name : String)
  | anchor (name : String)
  | tag (handle : String) (suffix : Bytes)
  | scalar (style : Style) (text : String)
  deriving DecidableEq, Repr

end HeaderRelay.Yaml
