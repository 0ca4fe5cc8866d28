/-!
# Tokens of a YAML document

The words a YAML document is made of. Block collections open and close with a change of
indentation, which is a token of its own, and so is the key that a later colon turns out to end.
-/

namespace CoverAudit.Yaml

/-- What a directive says. -/
inductive Directive where
  /-- The version of the format, by its first number. -/
  | version (major : Nat)
  /-- What a tag handle stands for. -/
  | tagHandle (handle meaning : String)
  | other
  deriving DecidableEq, Repr

/-- A token. -/
inductive Token where
  | directive (content : Directive)
  | documentStart
  | documentEnd
  | blockSequenceStart
  | blockMappingStart
  | blockEnd
  | flowSequenceStart
  | flowSequenceEnd
  | flowMappingStart
  | flowMappingEnd
  | blockEntry
  | flowEntry
  | key
  | value
  | alias (name : String)
  | anchor (name : String)
  /-- A tag by its handle, if it has one, and the rest. -/
  | tag (handle : Option String) (suffix : String)
  /-- A scalar; a plain one stands without quotes and not in a block. -/
  | scalar (text : String) (plain : Bool)
  | streamEnd
  deriving DecidableEq, Repr

end CoverAudit.Yaml
