namespace AllowPolicy.Yaml

/-- The parts of a document's text, as they follow one another. Block collections have their start
    and end inserted where the indentation changes. -/
inductive Token where
  | version (major : Nat)
  | handle (handle meaning : String)
  | otherDirective
  | documentStart
  | documentEnd
  | blockSequence
  | blockMapping
  | blockEnd
  | flowSequence
  | flowSequenceEnd
  | flowMapping
  | flowMappingEnd
  /-- The dash before an item. -/
  | item
  | comma
  | key
  | value
  | alias (name : String)
  | anchor (name : String)
  | tag (handle : Option String) (suffix : String)
  | scalar (text : String) (isPlain : Bool)
  deriving DecidableEq, Repr

end AllowPolicy.Yaml
