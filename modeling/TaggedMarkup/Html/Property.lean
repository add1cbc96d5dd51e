import TaggedMarkup.Html.Tag

/-! The property table says under which attribute name a property is written and which values
it accepts. A property that is not listed is written under its own name, and accepts truth
values only when it is a data or accessibility attribute.
-/

namespace TaggedMarkup.Html

/-- How the value of a property becomes an attribute. -/
inductive PropertyKind where
  | reserved
  | string
  /-- Written as text, truth values included. -/
  | booleanishString
  /-- Written without a text when the value is truthy. -/
  | boolean
  /-- Written without a text for `true`, left out for `false`, written as text otherwise. -/
  | overloadedBoolean
  /-- Left out when the value is no number. -/
  | numeric
  /-- Left out when the value is no number or below one. -/
  | positiveNumeric
deriving DecidableEq, Repr

structure Property where
  name : String
  written : String
  kind : PropertyKind
deriving DecidableEq, Repr

/-- The properties that the renderer handles itself. -/
def reservedProperties : List Property :=
  ["children", "dangerouslySetInnerHTML", "defaultValue", "defaultChecked", "innerHTML",
    "suppressContentEditableWarning", "suppressHydrationWarning", "style"].map
    fun name => ⟨name, name, .reserved⟩

/-- The properties whose attribute has a name of its own. -/
def renamedProperties : List Property :=
  [("acceptCharset", "accept-charset"), ("className", "class"), ("htmlFor", "for"),
    ("httpEquiv", "http-equiv"), ("tabIndex", "tabindex"), ("crossOrigin", "crossorigin")].map
    fun (name, written) => ⟨name, written, .string⟩

/-- The properties that write both truth values out. -/
def booleanishProperties : List Property :=
  [("contentEditable", "contenteditable"), ("draggable", "draggable"),
    ("spellCheck", "spellcheck"), ("value", "value"), ("autoReverse", "autoReverse"),
    ("externalResourcesRequired", "externalResourcesRequired"), ("focusable", "focusable"),
    ("preserveAlpha", "preserveAlpha")].map
    fun (name, written) => ⟨name, written, .booleanishString⟩

/-- The properties that are present or absent. -/
def booleanProperties : List Property :=
  [("allowFullScreen", "allowfullscreen"), ("async", "async"), ("autoFocus", "autofocus"),
    ("autoPlay", "autoplay"), ("controls", "controls"), ("default", "default"),
    ("defer", "defer"), ("disabled", "disabled"),
    ("disablePictureInPicture", "disablepictureinpicture"),
    ("formNoValidate", "formnovalidate"), ("hidden", "hidden"), ("loop", "loop"),
    ("noModule", "nomodule"), ("noValidate", "novalidate"), ("open", "open"),
    ("playsInline", "playsinline"), ("readOnly", "readonly"), ("required", "required"),
    ("reversed", "reversed"), ("scoped", "scoped"), ("seamless", "seamless"),
    ("itemScope", "itemscope"), ("checked", "checked"), ("multiple", "multiple"),
    ("muted", "muted"), ("selected", "selected")].map
    fun (name, written) => ⟨name, written, .boolean⟩

/-- The properties that are present, absent, or have a text. -/
def overloadedProperties : List Property :=
  ["capture", "download"].map fun name => ⟨name, name, .overloadedBoolean⟩

/-- The properties that have to be numbers. -/
def numericProperties : List Property :=
  [⟨"cols", "cols", .positiveNumeric⟩, ⟨"rows", "rows", .positiveNumeric⟩,
    ⟨"size", "size", .positiveNumeric⟩, ⟨"span", "span", .positiveNumeric⟩,
    ⟨"rowSpan", "rowspan", .numeric⟩, ⟨"start", "start", .numeric⟩]

/-- The properties of the link and language namespaces. -/
def namespacedProperties : List Property :=
  [("xlinkActuate", "xlink:actuate"), ("xlinkArcrole", "xlink:arcrole"),
    ("xlinkHref", "xlink:href"), ("xlinkRole", "xlink:role"), ("xlinkShow", "xlink:show"),
    ("xlinkTitle", "xlink:title"), ("xlinkType", "xlink:type"), ("xmlBase", "xml:base"),
    ("xmlLang", "xml:lang"), ("xmlSpace", "xml:space"), ("xmlnsXlink", "xmlns:xlink")].map
    fun (name, written) => ⟨name, written, .string⟩

def graphicsProperties : List Property :=
  [("accentHeight", "accent-height"), ("alignmentBaseline", "alignment-baseline"),
    ("arabicForm", "arabic-form"), ("baselineShift", "baseline-shift"),
    ("capHeight", "cap-height"), ("clipPath", "clip-path"), ("clipRule", "clip-rule"),
    ("colorInterpolation", "color-interpolation"),
    ("colorInterpolationFilters", "color-interpolation-filters"),
    ("colorProfile", "color-profile"), ("colorRendering", "color-rendering"),
    ("dominantBaseline", "dominant-baseline"), ("enableBackground", "enable-background"),
    ("fillOpacity", "fill-opacity"), ("fillRule", "fill-rule"), ("floodColor", "flood-color"),
    ("floodOpacity", "flood-opacity"), ("fontFamily", "font-family"), ("fontSize", "font-size"),
    ("fontSizeAdjust", "font-size-adjust"), ("fontStretch", "font-stretch"),
    ("fontStyle", "font-style"), ("fontVariant", "font-variant"), ("fontWeight", "font-weight"),
    ("glyphName", "glyph-name"), ("glyphOrientationHorizontal", "glyph-orientation-horizontal"),
    ("glyphOrientationVertical", "glyph-orientation-vertical"), ("horizAdvX", "horiz-adv-x"),
    ("horizOriginX", "horiz-origin-x"), ("imageRendering", "image-rendering"),
    ("letterSpacing", "letter-spacing"), ("lightingColor", "lighting-color"),
    ("markerEnd", "marker-end"), ("markerMid", "marker-mid"), ("markerStart", "marker-start"),
    ("overlinePosition", "overline-position"), ("overlineThickness", "overline-thickness"),
    ("paintOrder", "paint-order"), ("panose1", "panose-1"), ("pointerEvents", "pointer-events"),
    ("renderingIntent", "rendering-intent"), ("shapeRendering", "shape-rendering"),
    ("stopColor", "stop-color"), ("stopOpacity", "stop-opacity"),
    ("strikethroughPosition", "strikethrough-position"),
    ("strikethroughThickness", "strikethrough-thickness"),
    ("strokeDasharray", "stroke-dasharray"), ("strokeDashoffset", "stroke-dashoffset"),
    ("strokeLinecap", "stroke-linecap"), ("strokeLinejoin", "stroke-linejoin"),
    ("strokeMiterlimit", "stroke-miterlimit"), ("strokeOpacity", "stroke-opacity"),
    ("strokeWidth", "stroke-width"), ("textAnchor", "text-anchor"),
    ("textDecoration", "text-decoration"), ("textRendering", "text-rendering"),
    ("underlinePosition", "underline-position"), ("underlineThickness", "underline-thickness"),
    ("unicodeBidi", "unicode-bidi"), ("unicodeRange", "unicode-range"),
    ("unitsPerEm", "units-per-em"), ("vAlphabetic", "v-alphabetic"), ("vHanging", "v-hanging"),
    ("vIdeographic", "v-ideographic"), ("vMathematical", "v-mathematical"),
    ("vectorEffect", "vector-effect"), ("vertAdvY", "vert-adv-y"),
    ("vertOriginX", "vert-origin-x"), ("vertOriginY", "vert-origin-y"),
    ("wordSpacing", "word-spacing"), ("writingMode", "writing-mode"), ("xHeight", "x-height")].map
    fun (name, written) => ⟨name, written, .string⟩

def properties : List Property :=
  reservedProperties ++ renamedProperties ++ booleanishProperties ++ booleanProperties
    ++ overloadedProperties ++ numericProperties ++ namespacedProperties ++ graphicsProperties

/-- The line of the table for a property. -/
def property? (name : String) : Option Property :=
  properties.find? (fun property => property.name == name)

/-- Whether the kind gives truth values a meaning. -/
def PropertyKind.acceptsBooleans : PropertyKind → Bool
  | .booleanishString | .boolean | .overloadedBoolean => true
  | _ => false

/-- Whether the name begins like a data or accessibility attribute, in either case. -/
def isDataOrAria (name : String) : Bool :=
  let start := (name.toList.take 5).map lowered
  start == "data-".toList || start == "aria-".toList

/-- Whether truth values are written for a property with the given line of the table. -/
def acceptsBooleans (name : String) (property : Option Property) : Bool :=
  match property with
  | some property => property.kind.acceptsBooleans
  | none => isDataOrAria name

/-- Whether a property is an event handler: `on` in either case and at least one more byte. -/
def isEventHandler (name : String) : Bool :=
  match name.toList with
  | first :: second :: _ :: _ => lowered first == 'o' && lowered second == 'n'
  | _ => false

/-- Whether a property with the given line of the table never becomes an attribute. -/
def isIgnored (name : String) (property : Option Property) : Bool :=
  match property with
  | some property => property.kind == .reserved
  | none => isEventHandler name

/-- Whether the renderer handles a property of a custom element itself. -/
def isReservedOnCustom (name : String) : Bool :=
  ["children", "dangerouslySetInnerHTML", "suppressContentEditableWarning",
    "suppressHydrationWarning"].contains name

/-- Whether an attribute name may begin with the character. -/
def isNameStart (c : Char) : Bool :=
  c == ':' || c == '_' || isLetter c
    || ('\u00c0' ≤ c && c ≤ '\u00d6') || ('\u00d8' ≤ c && c ≤ '\u00f6')
    || ('\u00f8' ≤ c && c ≤ '\u02ff') || ('\u0370' ≤ c && c ≤ '\u037d')
    || ('\u037f' ≤ c && c ≤ '\u1fff') || ('\u200c' ≤ c && c ≤ '\u200d')
    || ('\u2070' ≤ c && c ≤ '\u218f') || ('\u2c00' ≤ c && c ≤ '\u2fef')
    || ('\u3001' ≤ c && c ≤ '\ud7ff') || ('\uf900' ≤ c && c ≤ '\ufdcf')
    || ('\ufdf0' ≤ c && c ≤ '\ufffd')

/-- Whether an attribute name may go on with the character. -/
def isNamePart (c : Char) : Bool :=
  isNameStart c || c == '-' || c == '.' || ('0' ≤ c && c ≤ '9') || c == '\u00b7'
    || ('\u0300' ≤ c && c ≤ '\u036f') || ('\u203f' ≤ c && c ≤ '\u2040')

/-- Whether an attribute name can be written without breaking its tag. -/
def isSafeName (name : String) : Bool :=
  match name.toList with
  | first :: rest => isNameStart first && rest.all isNamePart
  | [] => false

end TaggedMarkup.Html
