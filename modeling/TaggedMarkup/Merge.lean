import TaggedMarkup.Error
import TaggedMarkup.Value

/-! The attributes of a node are merged into properties in the order of the template, so that
the last writing of a name wins: an object spread among the attributes replaces what stands
before it and is replaced by what stands after it. A merged property knows its source, the
place in the template or in the values that it comes from.
-/

namespace TaggedMarkup

/-- Where the value of a property comes from. -/
inductive Source where
  | literal (text : String)
  /-- A name without a value, which means `true`. -/
  | bare
  | slot (index : Nat)
  /-- The field at a position of the object in a slot. -/
  | field (slot position : Nat)
deriving DecidableEq, Repr

namespace Source

/-- The field at a position of an object. -/
def fieldAt (position : Nat) : Option Value → Value
  | some (.object fields) => (fields[position]?.map Prod.snd).getD .undefined
  | _ => .undefined

def value (values : List Value) : Source → Value
  | .literal text => .string text
  | .bare => .bool true
  | .slot index => values.getD index .undefined
  | .field place position => fieldAt position values[place]?

end Source

/-- The fields of the object in a slot. Other values have none to spread. -/
def spreadFields? (values : List Value) (slot : Nat) : Option Props :=
  values[slot]?.bind Value.fields?

/-- The name in a slot, which has to be a text that is not empty. -/
def dynamicName? (value : Value) : Option String :=
  match value with
  | .string name => if name.isEmpty then none else some name
  | _ => none

/-- The source of the value of a named attribute. -/
def AttributeValue.source : AttributeValue → Source
  | .literal text => .literal text
  | .bare => .bare
  | .slot index => .slot index

/-- The names that an attribute writes, in order. -/
def Attribute.assignments (values : List Value) : Attribute → List (String × Source)
  | .named name value _ => [(name, value.source)]
  | .dynamicName slot _ =>
      match values[slot]?.bind dynamicName? with
      | some name => [(name, .bare)]
      | none => []
  | .spread slot _ =>
      match spreadFields? values slot with
      | some fields =>
          fields.zipIdx.map fun (field, position) => (field.1, .field slot position)
      | none => []

namespace Node

def sources (node : Node) (values : List Value) : Fields Source :=
  Fields.ofEntries (node.attributes.flatMap (Attribute.assignments values))

def props (node : Node) (values : List Value) : Props :=
  (node.sources values).map fun (name, source) => (name, source.value values)

/-- Whether the object of a noted spread has the name. -/
def spreadHas (values : List Value) (name : String) (slot : Nat) : Bool :=
  match spreadFields? values slot with
  | some fields => Fields.contains fields name
  | none => false

/-- Whether a spread after the attribute at a position writes the name. -/
def isOverridden (node : Node) (entry : Nat) (name : String) (values : List Value) : Bool :=
  (node.spreads.filter fun note => entry < note.entry).any fun note =>
    spreadHas values name note.slot

/-- Whether an attribute whose name is not in the template writes the name. -/
def writesDynamically (values : List Value) (name : String) : Attribute → Bool
  | .named .. => false
  | .dynamicName slot _ => values[slot]?.bind dynamicName? == some name
  | .spread slot _ => spreadHas values name slot

/-- The fields of the spread at a position that nothing after it writes, in order. -/
def spreadSurvivors (node : Node) (entry : Nat) (values : List Value) : Props :=
  match node.spreadAt? entry with
  | none => []
  | some note =>
      match spreadFields? values note.slot with
      | none => []
      | some fields =>
          fields.filter fun (name, _) =>
            !note.after.contains name
              && !(node.attributes.drop (entry + 1)).any (writesDynamically values name)

end Node

/-- The key and the reference of an element, which are no properties of its own. -/
structure Identity where
  key : Option String
  reference : Option Value

/-- The properties without the key and the reference, and these two unless they have no
value. -/
def splitIdentity (props : Props) : Identity × Props :=
  ({
      key := ((Fields.get? props "key").bind Value.present?).map Value.text
      reference := (Fields.get? props "ref").bind Value.present?
    },
    Fields.erase (Fields.erase props "key") "ref")

inductive Content where
  | nothing
  | children (value : Value)
  /-- Markup that is written as it is. -/
  | innerHtml (markup : String)

namespace Content

/-- The markup that an object gives as it is, which it may leave without a value. -/
def innerHtml? (value : Value) : Except Error (Option String) :=
  match value.get? "__html" with
  | some markup => .ok (markup.present?.map Value.text)
  | none => .error .innerHtmlShape

/-- The content that properties give. Children and markup exclude each other. -/
def ofProps (props : Props) : Except Error Content :=
  match (Fields.get? props "children").bind Value.present?,
    (Fields.get? props "dangerouslySetInnerHTML").bind Value.present? with
  | some _, some _ => .error .childrenConflict
  | some value, none => .ok (.children value)
  | none, some inner =>
      match innerHtml? inner with
      | .error error => .error error
      | .ok (some markup) => .ok (.innerHtml markup)
      | .ok none => .ok .nothing
  | none, none => .ok .nothing

end Content

end TaggedMarkup
