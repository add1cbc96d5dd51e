import TaggedMarkup.Error
import TaggedMarkup.Html.Property
import TaggedMarkup.Style
import TaggedMarkup.Text.Escape

/-! A property of a host element becomes an attribute or nothing. The property table decides
for most elements. A custom element keeps the names of its properties and every value that
has a text.
-/

namespace TaggedMarkup.WrittenAttribute

/-- The attribute with the text of a value. -/
def quoted (name : String) (value : Value) : Piece :=
  .attribute name (Text.escape value.text)

/-- Whether a property with the given line of the table is left out for its value. -/
def isDropped (name : String) (value : Value) (property : Option Html.Property) : Bool :=
  match value with
  | .undefined | .null | .function _ | .symbol _ => true
  | value =>
      let refused :=
        match value with
        | .bool _ => !Html.acceptsBooleans name property
        | _ => false
      refused
        || match property with
          | none => false
          | some line =>
              match line.kind with
              | .boolean => !value.isTruthy
              | .overloadedBoolean =>
                  match value with
                  | .bool value => !value
                  | _ => false
              | .numeric => value.toNumber.isNaN
              | .positiveNumeric => value.toNumber.isNaN || value.toNumber.isBelowOne
              | _ => false

/-- Whether a property of the kind is written without a text for its value. -/
def isEmptied (kind : Html.PropertyKind) (value : Value) : Bool :=
  match kind, value with
  | .boolean, _ => true
  | .overloadedBoolean, .bool true => true
  | _, _ => false

/-- The attribute of a property by the property table. -/
def standard? (name : String) (value : Value) : Option Piece :=
  let property := Html.property? name
  if Html.isIgnored name property || isDropped name value property then
    none
  else
    match property with
    | some line =>
        if isEmptied line.kind value then
          some (.attribute line.written "")
        else
          some (quoted line.written value)
    | none => if Html.isSafeName name then some (quoted name value) else none

/-- The attribute of a property of a custom element. -/
def custom? (name : String) (value : Value) : Option Piece :=
  if Html.isReservedOnCustom name || !Html.isSafeName name then
    none
  else
    match value with
    | .undefined | .null | .function _ | .symbol _ => none
    | value => some (quoted name value)

def ofProperty? (name : String) (value : Value) (custom : Bool) : Option Piece :=
  if custom then custom? name value else standard? name value

/-- The attribute of a style object. Other values than objects are refused. -/
def ofStyle? : Value → Except Error (Option Piece)
  | .undefined | .null => .ok none
  | .object styles =>
      .ok ((Style.serialize? styles).map fun css => .attribute "style" (Text.escape css))
  | _ => .error .styleNotObject

/-- Whether the renderer reads the property itself, so that it is never an attribute. -/
def isContentOrIdentity (name : String) : Bool :=
  ["key", "ref", "children", "dangerouslySetInnerHTML"].contains name

/-- The attribute of a property of a host element, whatever its name. -/
def ofProp? (name : String) (value : Value) (custom : Bool) : Except Error (Option Piece) :=
  if isContentOrIdentity name then
    .ok none
  else if name = "style" then
    ofStyle? value
  else
    .ok (ofProperty? name value custom)

/-- The attributes of several properties, in order. -/
def ofProps (props : List (String × Value)) (custom : Bool) : Except Error (List Piece) :=
  match props with
  | [] => .ok []
  | (name, value) :: rest => do
      let first ← ofProp? name value custom
      let others ← ofProps rest custom
      .ok (first.toList ++ others)

end TaggedMarkup.WrittenAttribute
