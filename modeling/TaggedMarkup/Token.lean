import TaggedMarkup.Location

/-! The fragments of a template are read as one sequence of tokens. A slot is the place of an
interpolated value between two fragments, counted from zero.
-/

namespace TaggedMarkup

/-- The value that an attribute is written with. -/
inductive AttributeValue where
  /-- Text in the template, quoted or not. -/
  | literal (text : String)
  | bare
  | slot (index : Nat)
deriving DecidableEq, Repr

inductive Token where
  | text (raw : String) (location : Location)
  | openTag (name : String) (location : Location)
  | openEnd (selfClosing : Bool)
  | closeTag (name : String) (location : Location)
  | attribute (name : String) (value : AttributeValue) (location : Location)
  /-- An interpolated object in the place of attributes. -/
  | spread (slot : Nat) (location : Location)
  | dynamicName (slot : Nat) (location : Location)
  | child (slot : Nat) (location : Location)
  /-- An interpolated value inside a comment. -/
  | ignored (slot : Nat)
deriving DecidableEq, Repr

end TaggedMarkup
