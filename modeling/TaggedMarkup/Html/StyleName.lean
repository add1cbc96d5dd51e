import TaggedMarkup.Html.Tag

/-! Style properties are named in camel case and written with hyphens. Plain numbers get the
unit of pixels except for the properties that count something else.
-/

namespace TaggedMarkup.Html

/-- The style properties whose numbers have no unit. -/
def unitlessProperties : List String :=
  ["animationIterationCount", "borderImageOutset", "borderImageSlice", "borderImageWidth",
    "boxFlex", "boxFlexGroup", "boxOrdinalGroup", "columnCount", "columns", "flex", "flexGrow",
    "flexPositive", "flexShrink", "flexNegative", "flexOrder", "gridArea", "gridRow",
    "gridRowEnd", "gridRowSpan", "gridRowStart", "gridColumn", "gridColumnEnd",
    "gridColumnSpan", "gridColumnStart", "fontWeight", "lineClamp", "lineHeight", "opacity",
    "order", "orphans", "tabSize", "widows", "zIndex", "zoom", "fillOpacity", "floodOpacity",
    "stopOpacity", "strokeDasharray", "strokeDashoffset", "strokeMiterlimit", "strokeOpacity",
    "strokeWidth"]

/-- The beginnings of the names of one vendor's properties. -/
def vendorMarks : List String :=
  ["Webkit", "ms", "Moz", "O"]

/-- The property that follows a vendor's mark, which goes on with a capital letter. -/
def unmarked? (name mark : String) : Option String :=
  if mark.toList.isPrefixOf name.toList then
    match name.toList.drop mark.length with
    | first :: rest =>
        if isCapital first then some (String.ofList (lowered first :: rest)) else none
    | [] => none
  else
    none

/-- Whether numbers of the style property have no unit, also under a vendor's mark. -/
def isUnitless (name : String) : Bool :=
  unitlessProperties.contains name
    || vendorMarks.any fun mark => (unmarked? name mark).any unitlessProperties.contains

/-- A capital letter becomes a hyphen and a small letter. -/
def hyphenatedChar (c : Char) : List Char :=
  if isCapital c then ['-', lowered c] else [c]

/-- The written name of a style property in camel case. The mark `ms` gets the hyphen that
the capital letter of the other marks brings. -/
def hyphenated (name : String) : String :=
  let chars := name.toList.flatMap hyphenatedChar
  if ['m', 's', '-'].isPrefixOf chars then
    String.ofList ('-' :: chars)
  else
    String.ofList chars

/-- Whether the style property is a custom one, which is written as it is. -/
def isCustomStyle (name : String) : Bool :=
  ['-', '-'].isPrefixOf name.toList

end TaggedMarkup.Html
