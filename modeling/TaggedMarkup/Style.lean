import TaggedMarkup.Html.StyleName
import TaggedMarkup.Text.Blank
import TaggedMarkup.Value

/-! A style object is written as one text: its properties with their values, separated by
semicolons. Properties without a value are left out.
-/

namespace TaggedMarkup.Style

/-- The value of a style property as it is written. Numbers other than zero get the unit of
pixels unless the property has none. -/
def valueText (name : String) (value : Value) : String :=
  match value with
  | .bool _ => ""
  | .number number =>
      if !Html.isCustomStyle name && !number.isZero && !Html.isUnitless name then
        number.text ++ "px"
      else
        number.text
  | value => Text.trim value.text

/-- The written name of a style property. -/
def nameText (name : String) : String :=
  if Html.isCustomStyle name then name else Html.hyphenated name

def declarations (styles : Props) : List String :=
  styles.filterMap fun (name, value) =>
    if value.isNullish then none else some (nameText name ++ ":" ++ valueText name value)

/-- The text of a style object, unless none of its properties has a value. -/
def serialize? (styles : Props) : Option String :=
  match declarations styles with
  | [] => none
  | written => some (String.intercalate ";" written)

end TaggedMarkup.Style
