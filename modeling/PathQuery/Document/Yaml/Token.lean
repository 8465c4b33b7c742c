set_option autoImplicit false

namespace PathQuery.Yaml

structure TagName where
  -- The handle in front. It is empty for a name in full.
  handle : String
  suffix : String
deriving DecidableEq, Repr

inductive Token where
  | version (major minor : Nat)
  -- A handle for tags and the text that it stands for.
  | tagHandle (handle lead : String)
  | documentStart
  | documentEnd
  | blockSequence
  | blockMapping
  | blockEnd
  | flowSequence
  | flowSequenceEnd
  | flowMapping
  | flowMappingEnd
  | blockEntry
  | flowEntry
  | key
  | value
  | alias (name : String)
  | anchor (name : String)
  | tag (name : TagName)
  -- A scalar, which is plain if it is neither quoted nor a block.
  | scalar (plain : Bool) (text : String)
  | streamEnd
deriving DecidableEq, Repr

end PathQuery.Yaml
