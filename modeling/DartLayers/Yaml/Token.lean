import DartLayers.Yaml.Cursor

/-!
# DartLayers — tokens of YAML texts

A text is read as a list of tokens. Block collections, which are shown by indentation only, have
tokens for their start and their end; a mapping key has one in front of it. The list ends with the
end of the text or with a fault.
-/

namespace DartLayers.Yaml

/-- A directive in front of a document. -/
inductive Directive where
  | version (major : Nat)
  | handle (handle address : List Char)
  | other
  deriving Repr, DecidableEq

/-- A token. -/
inductive Token where
  | endOfText
  | fault (fault : Fault)
  | directive (directive : Directive)
  | documentStart
  | documentEnd
  | blockSequence
  | blockMapping
  | blockEnd
  | flowSequence
  | flowSequenceEnd
  | flowMapping
  | flowMappingEnd
  | flowEntry
  | blockEntry
  | key
  | value
  | alias (name : List Char)
  | anchor (name : List Char)
  | tag (handle : Option (List Char)) (address : List Char)
  | scalar (isPlain : Bool) (text : List Char)
  deriving Repr, DecidableEq

end DartLayers.Yaml
