/-!
The tokens of a YAML text. Indentation and the keys of mappings are made explicit: every block
collection has a token for its start and one for its end, and every key one in front.
-/

namespace PolicyAttachment.Yaml

inductive Token where
  | version (major minor : Nat)
  | shorthand (handle : String) (full : List UInt8)
  | documentStart
  | documentEnd
  | streamEnd
  | blockSequence
  | blockMapping
  | blockEnd
  | flowSequence
  | flowSequenceEnd
  | flowMapping
  | flowMappingEnd
  | item
  | comma
  | key
  | value
  | aliased (name : String)
  | anchor (name : String)
  | tag (handle : String) (suffix : List UInt8)
  | scalar (plain : Bool) (text : String)
deriving DecidableEq, Repr, Inhabited

end PolicyAttachment.Yaml
