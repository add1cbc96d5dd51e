import TaggedMarkup.Number.Text
import TaggedMarkup.Program

/-! Values fill the slots of templates. A value has no fixed type, and whoever reads a slot
decides by the kind of value what becomes of it. Functions, bound templates and elements
carry a serial number: two of them are the same one when their serial numbers are equal.
-/

namespace TaggedMarkup

/-- What the code of a component sees: its properties, its reference and its state. -/
structure Scope (α : Type) where
  props : List (String × α)
  reference : α
  state : α

/-- A function: its code with the scope in which it was made. -/
structure Closure (α : Type) where
  serial : Nat
  code : Nat
  scope : Scope α

inductive ElementKind where
  | host (tag : String)
  | component (component : Component)
  | fragment
deriving DecidableEq, Repr

/-- An element: what it renders as, its key and reference, and its properties. `part` tells
the elements apart that were made together. -/
structure ElementOf (α : Type) where
  serial : Nat
  part : Option Nat
  kind : ElementKind
  key : Option String
  reference : Option α
  props : List (String × α)

/-- A compiled template with its values, or the node of it that `entry` gives. -/
structure MarkupOf (α : Type) where
  serial : Nat
  template : Compiled
  values : List α
  entry : Option Nat

inductive Value where
  | undefined
  | null
  | bool (value : Bool)
  | number (value : Binary64)
  | string (value : String)
  | array (items : List Value)
  | object (fields : List (String × Value))
  | element (element : ElementOf Value)
  | markup (markup : MarkupOf Value)
  | function (closure : Closure Value)
  | symbol (description : String)

/-- Properties: values by name in the order of their first writing. -/
abbrev Props := Fields Value

abbrev Element := ElementOf Value

abbrev Markup := MarkupOf Value

namespace Value

/-- Whether the value is `null` or `undefined`. -/
def isNullish : Value → Bool
  | .undefined | .null => true
  | _ => false

/-- The value unless it is `null` or `undefined`. -/
def present? (value : Value) : Option Value :=
  if value.isNullish then none else some value

def isTruthy : Value → Bool
  | .undefined | .null => false
  | .bool value => value
  | .number value => !value.isZero && !value.isNaN
  | .string value => !value.isEmpty
  | _ => true

def string? : Value → Option String
  | .string value => some value
  | _ => none

def fields? : Value → Option Props
  | .object fields => some fields
  | _ => none

def get? (value : Value) (name : String) : Option Value :=
  value.fields?.bind fun fields => Fields.get? fields name

/-- The kind of value in a word. -/
def typeName : Value → String
  | .undefined => "undefined"
  | .null => "null"
  | .bool _ => "boolean"
  | .number _ => "number"
  | .string _ => "string"
  | .array _ => "array"
  | .object _ => "object"
  | .element _ => "element"
  | .markup _ => "markup"
  | .function _ => "function"
  | .symbol _ => "symbol"

mutual

/-- The value as text, as a script converts it. -/
def text : Value → String
  | .undefined => "undefined"
  | .null => "null"
  | .bool true => "true"
  | .bool false => "false"
  | .number value => value.text
  | .string value => value
  | .array items => String.intercalate "," (itemTexts items)
  | .object _ | .element _ | .markup _ => "[object Object]"
  | .function _ => "function () \x7b\x7d"
  | .symbol description => "Symbol(" ++ description ++ ")"

/-- The items of an array as text. Items without a value are empty. -/
def itemTexts : List Value → List String
  | [] => []
  | item :: rest => (if item.isNullish then "" else item.text) :: itemTexts rest

end

/-- The value as a number, as a script converts it. -/
def toNumber : Value → Binary64
  | .null => Binary64.zero false
  | .bool value => if value then Binary64.ofInt 1 else Binary64.zero false
  | .number value => value
  | .string value => Binary64.ofText value
  | .array [] => Binary64.ofText (text (.array []))
  | .array [item] => Binary64.ofText (text (.array [item]))
  | _ => Binary64.nan

end Value

/-- The child that a list of children is as a property: the only one, or an array. -/
def Value.ofChildren : List Value → Value
  | [child] => child
  | children => .array children

end TaggedMarkup
