import TaggedMarkup.Render.State
import TaggedMarkup.Merge

/-! Host elements that are rendered from their properties. The form elements `input`,
`textarea`, `option` and `select` read some properties instead of writing them.
-/

namespace TaggedMarkup

namespace FormControl

/-- The first of two properties that has a value. -/
def firstPresent (props : Props) (first second : String) : Value :=
  (((Fields.get? props first).bind Value.present?).or
    ((Fields.get? props second).bind Value.present?)).getD .undefined

/-- The properties of an `input`: the type comes first, and the value and the check fall back
to their defaults. -/
def inputProps (props : Props) : Props :=
  let merged := Fields.insertAll [("type", Value.undefined)] props
  Fields.insert
    (Fields.insert merged "value" (firstPresent props "value" "defaultValue"))
    "checked" (firstPresent props "checked" "defaultChecked")

/-- The content of a `textarea`: its value, else its first child, else its default. -/
def textareaText (props : Props) : String :=
  match (Fields.get? props "value").bind Value.present? with
  | some value => value.text
  | none =>
      match (Fields.get? props "children").bind Value.present? with
      | some (.array items) => (items.headD .undefined).text
      | some child => child.text
      | none =>
          match (Fields.get? props "defaultValue").bind Value.present? with
          | some value => value.text
          | none => ""

/-- The properties of a `textarea`: the content, and no value. -/
def textareaProps (props : Props) : Props :=
  Fields.insert (Fields.insert props "value" .undefined) "children"
    (.string (textareaText props))

/-- The value of a `select`, which decides about its options. -/
def selectValue (props : Props) : Value :=
  firstPresent props "value" "defaultValue"

/-- The properties of a `select`, whose value is not written. -/
def selectProps (props : Props) : Props :=
  Fields.insert props "value" .undefined

mutual

/-- The strings and numbers in a value, arrays included. -/
def flatText : Value → String
  | .string text => text
  | .number number => number.text
  | .array items => flatTexts items
  | _ => ""

/-- The strings and numbers in the items of an array. -/
def flatTexts : List Value → String
  | [] => ""
  | item :: rest => flatText item ++ flatTexts rest

end

def optionText (props : Props) : String :=
  match Fields.get? props "children" with
  | some children => flatText children
  | none => ""

/-- The value that an `option` stands for: its own, or its text. -/
def optionValue (props : Props) : String :=
  match (Fields.get? props "value").bind Value.present? with
  | some value => value.text
  | none => optionText props

/-- Whether a value of a `select` selects the option that stands for a text. -/
def selects (selection : Value) (option : String) : Bool :=
  match selection with
  | .array items => items.any fun item => item.text == option
  | single => single.text == option

/-- The mark of an `option`: none outside of a `select` and in one without a value. -/
def optionSelected (selection : Option Value) (props : Props) : Value :=
  match selection.bind Value.present? with
  | some value => .bool (selects value (optionValue props))
  | none => .null

/-- The properties of an `option`: the mark comes first, and the content is text. -/
def optionProps (selection : Option Value) (props : Props) : Props :=
  let merged :=
    Fields.insertAll [("selected", Value.undefined), ("children", Value.undefined)] props
  Fields.insert
    (Fields.insert merged "selected" (optionSelected selection props))
    "children" (.string (optionText props))

end FormControl

namespace Render

/-- Begins an element: its name, its attributes and the mark of the first element. -/
def writeOpenTag (cx : RenderSettings) (tag : String) (props : Props) : Render Unit := do
  let custom := Html.isCustomTag tag || Fields.contains props "is"
  write (.openTag tag)
  writeOrFail (WrittenAttribute.ofProps props custom)
  writeRootMarker cx.options

/-- Whether a text begins with a line feed. -/
def startsWithNewline (text : String) : Bool :=
  text.toList.head? == some '\n'

/-- Renders a child. A text that begins with a line feed gets another one before it where the
first is lost. -/
def renderChild (leadNewline : Bool) (value : Value) (renderValue : Render Unit)
    : Render Unit := do
  if leadNewline && value.string?.any startsWithNewline then
    write (.raw "\n")
  renderValue

/-- Renders what goes into an element. `renderChildren` renders the children. -/
def renderContent (tag : String) (content : Content) (renderChildren : Render Unit)
    : Render Unit :=
  match content with
  | .nothing => pure ()
  | .innerHtml markup => do
      if Html.eatsNewline tag && startsWithNewline markup then
        write (.raw "\n")
      write (.raw markup)
  | .children value => renderChild (Html.eatsNewline tag) value renderChildren

/-- Whether one of the two properties that give content has a value. -/
def hasContent (props : Props) : Bool :=
  ((Fields.get? props "children").bind Value.present?).isSome
    || ((Fields.get? props "dangerouslySetInnerHTML").bind Value.present?).isSome

/-- Renders an element with its properties as they are. -/
def renderElement (cx : RenderSettings) (tag : String) (props : Props)
    (renderChildren : Render Unit) : Render Unit := do
  if Html.isVoid tag && hasContent props then
    throw (.voidElementChildren tag)
  match Content.ofProps props with
  | .error error => throw error
  | .ok content =>
      writeOpenTag cx tag props
      if Html.isVoid tag then
        write .selfClose
      else
        write .openEnd
        renderContent tag content renderChildren
        write (.closeTag tag)

def renderText (cx : RenderSettings) (text : String) : Render Unit :=
  if text.isEmpty then pure () else writeText cx.options (Text.escape text)

/-- Renders a form element whose content is text. -/
def renderControl (cx : RenderSettings) (tag : String) (props : Props) : Render Unit := do
  if tag = "input" then
    renderElement cx tag (FormControl.inputProps props) (pure ())
  else if tag = "textarea" then
    renderElement cx tag (FormControl.textareaProps props)
      (renderText cx (FormControl.textareaText props))
  else
    let state ← get
    renderElement cx tag (FormControl.optionProps state.selections.head? props)
      (renderText cx (FormControl.optionText props))

/-- Renders a host element. `renderChildren` renders its `children` property. -/
def renderHost (cx : RenderSettings) (tag : String) (props : Props)
    (renderChildren : Render Unit) : Render Unit :=
  if Program.isFormControl tag then
    renderControl cx tag props
  else if tag = "select" then
    renderElement cx tag (FormControl.selectProps props) do
      pushSelection (FormControl.selectValue props)
      renderChildren
      popSelection
  else
    renderElement cx tag props renderChildren

end Render

end TaggedMarkup
