import TaggedMarkup.Render.Value
import TaggedMarkup.Proofs.Compiling
import TaggedMarkup.Proofs.Merging

/-! Rendering told without a stack. What is rendered consists of steps, each of which writes
something, runs code, or renders something inside. The surroundings of what is inside follow from
those of the whole, and nothing that has been rendered before has a say in them.
-/

namespace TaggedMarkup.Render

/-- What the selections and the providers around a place say to it. -/
structure Surroundings where
  /-- The value of the innermost selection around, if there is one. -/
  selection : Option Value
  context : String → Value

namespace Surroundings

/-- Inside a provider its context has the value that it provides. -/
def provide (around : Surroundings) (context : String) (value : Value) : Surroundings :=
  { around with
    context := fun other => if other = context then value else around.context other }

/-- Inside a selection its value is the one that counts, inside other elements nothing changes. -/
def enter (around : Surroundings) (tag : String) (props : Props) : Surroundings :=
  if tag = "select" then
    { around with selection := some (FormControl.selectValue props) }
  else
    around

/-- Contexts have the same values in two places, and so do selections if all that are entered are
left.
-/
structure Agrees (paired : Prop) (here around : Surroundings) : Prop where
  context : here.context = around.context
  selection : paired → here.selection = around.selection

end Surroundings

/-- What can be rendered in a place. -/
inductive Subject where
  | value (value : Value)
  | component (component : Component) (props : Props) (reference : Option Value)
  /-- An element that is rendered from its properties. -/
  | host (tag : String) (props : Props)
  /-- A child in a bound template. `top` and `leadNewline` are what compiling the child is told. -/
  | node (markup : Markup) (top leadNewline : Bool) (child : Child)

inductive Step where
  | write (piece : Piece)
  /-- Writes a text that is not escaped yet. -/
  | text (text : String)
  | rootMarker
  | fail (error : Error)
  /-- Runs code and renders what it yields in the same place. -/
  | run (around : Surroundings) (body : Body Value)
  | inside (around : Surroundings) (subject : Subject)

namespace Step

-----------------------------------------------------------------------------------------
-- Elements
-----------------------------------------------------------------------------------------

def attributes : Except Error (List Piece) → List Step
  | .ok pieces => pieces.map .write
  | .error error => [.fail error]

/-- The beginning of an element that is rendered from its properties. -/
def openTag (tag : String) (props : Props) : List Step :=
  let custom := Html.isCustomTag tag || Fields.contains props "is"
  .write (.openTag tag) :: attributes (WrittenAttribute.ofProps props custom) ++ [.rootMarker]

/-- The line feed before a child that would lose its first one. -/
def lineFeed (leadNewline : Bool) (value : Value) : List Step :=
  if leadNewline && value.string?.any startsWithNewline then [.write (.raw "\n")] else []

/-- What goes into an element, of which the children are rendered in some steps. -/
def content (tag : String) (content : Content) (children : List Step) : List Step :=
  match content with
  | .nothing => []
  | .innerHtml markup =>
      lineFeed (Html.eatsNewline tag) (.string markup) ++ [.write (.raw markup)]
  | .children value => lineFeed (Html.eatsNewline tag) value ++ children

/-- An element with its properties as they are. -/
def element (tag : String) (props : Props) (children : List Step) : List Step :=
  if Html.isVoid tag && hasContent props then
    [.fail (.voidElementChildren tag)]
  else
    match Content.ofProps props with
    | .error error => [.fail error]
    | .ok given =>
        openTag tag props
        ++ if Html.isVoid tag then
            [.write .selfClose]
          else
            .write .openEnd :: content tag given children ++ [.write (.closeTag tag)]

def texts (text : String) : List Step :=
  if text.isEmpty then [] else [.text text]

/-- A form element whose content is text. An option asks for the selection around it. -/
def control (selection : Option Value) (tag : String) (props : Props) : List Step :=
  if tag = "input" then
    element tag (FormControl.inputProps props) []
  else if tag = "textarea" then
    element tag (FormControl.textareaProps props) (texts (FormControl.textareaText props))
  else
    element tag (FormControl.optionProps selection props) (texts (FormControl.optionText props))

/-- Renders a value if there is one. -/
def optional (around : Surroundings) (value : Option Value) : List Step :=
  value.toList.map fun value => .inside around (.value value)

/-- An element that is rendered from its properties, with its children inside it. -/
def host (around : Surroundings) (tag : String) (props : Props) : List Step :=
  let children := optional (around.enter tag props) (Fields.get? props "children")
  if Program.isFormControl tag then
    control around.selection tag props
  else if tag = "select" then
    element tag (FormControl.selectProps props) children
  else
    element tag props children

-----------------------------------------------------------------------------------------
-- Bound templates
-----------------------------------------------------------------------------------------

/-- The slots of a bound template, where it does not matter how their values are rendered. -/
def slots (markup : Markup) : Slots where
  serial := markup.serial
  template := markup.template
  values := markup.values
  renderSlot _ := pure ()
  renderField _ _ := pure ()

/-- The properties of a node without its key and reference and without its children. -/
def ownProps (markup : Markup) (node : Node) : Props :=
  (splitIdentity (node.props markup.values)).2

/-- The beginning of an element that is compiled inline. -/
def opening (markup : Markup) (node : Node) (tag : String) (top : Bool) : List Step :=
  if tag = "select" then
    openTag tag (FormControl.selectProps (ownProps markup node))
  else
    .write (.openTag tag)
    :: attributes
        (WrittenAttribute.ofProps ((node.emissions markup.values).map Emission.field)
          node.isCustom)
    ++ if top then [.rootMarker] else []

/-- The content that the attributes of a node may give. -/
def given (around : Surroundings) (markup : Markup) (node : Node) (tag : String)
    : List Step :=
  if node.hasContentSource then
    match Content.ofProps (node.props markup.values) with
    | .error error => [.fail error]
    | .ok .nothing => []
    | .ok found =>
        if node.isVoid then
          [.fail (.voidElementChildren tag)]
        else
          content tag found
            (optional around (Fields.get? (node.props markup.values) "children"))
  else
    []

/-- Renders children of a bound template in a row. -/
def children (around : Surroundings) (markup : Markup) (top leadNewline : Bool)
    (children : List Child)
    : List Step :=
  children.map fun child => .inside around (.node markup top leadNewline child)

/-- An element that is compiled inline, with its children inside it. -/
def inline (around : Surroundings) (markup : Markup) (top : Bool) (node : Node) (tag : String)
    (nested : List Child)
    : List Step :=
  let inner := around.enter tag (ownProps markup node)
  opening markup node tag top
  ++ if node.isVoid then
      given inner markup node tag ++ [.write .selfClose]
    else
      .write .openEnd
      :: (if nested.isEmpty then
            given inner markup node tag
          else
            children inner markup false (nested.length == 1 && Html.eatsNewline tag) nested)
      ++ [.write (.closeTag tag)]

/-- A node of a bound template with its children. -/
def branch (around : Surroundings) (markup : Markup) (top : Bool) (node : Node)
    (nested : List Child)
    : List Step :=
  let (identity, props) := (slots markup).nodeProps ⟨node, nested⟩
  match node.tag with
  | .fragment => children around markup top false nested
  | .component _ =>
      (markup.template.component? node.id).toList.map fun component =>
        .inside around (.component component props identity.reference)
  | .element tag =>
      if Program.isFormControl tag then
        control around.selection tag props
      else
        inline around markup top node tag nested

end Step

-----------------------------------------------------------------------------------------
-- Subjects
-----------------------------------------------------------------------------------------

/-- The steps of rendering a component. Only a provider changes what is around its children. -/
def componentSteps (host : Host) (around : Surroundings) (props : Props)
    (reference : Option Value)
    : Component → List Step
  | .function code => [.run around (host.function code props)]
  | .stateful code =>
      let definition := host.stateful code
      [.run around
        ((definition.construct props).bind fun state =>
          definition.render (definition.willMount state) props)]
  | .forwardRef code => [.run around (host.forwardRef code props reference)]
  | .memo inner => [.inside around (.component inner props reference)]
  | .provider context =>
      Step.optional (around.provide context ((Fields.get? props "value").getD .undefined))
        (Fields.get? props "children")
  | .consumer context =>
      match Fields.get? props "children" with
      | some (.function closure) => [.run around (host.call closure [around.context context])]
      | _ => [.fail .consumerChild]
  | .fragment => Step.optional around (Fields.get? props "children")
  | .alias tag => [.inside around (.host tag props)]

/-- The steps of rendering a value as a child. -/
def valueSteps (around : Surroundings) : Value → List Step
  | .undefined | .null | .bool _ | .function _ | .symbol _ => []
  | .string text => Step.texts text
  | .number number => [.text number.text]
  | .object fields => [.text (Value.object fields).text]
  | .array items => items.map fun item => .inside around (.value item)
  | .element ⟨_, _, kind, _, reference, props⟩ =>
      match kind with
      | .host tag => [.inside around (.host tag props)]
      | .component component => [.inside around (.component component props reference)]
      | .fragment => Step.optional around (Fields.get? props "children")
  | .markup markup => Step.children around markup true false
      (markup.template.roots markup.entry)

def stepsOf (host : Host) (around : Surroundings) : Subject → List Step
  | .value value => valueSteps around value
  | .component component props reference => componentSteps host around props reference component
  | .host tag props => Step.host around tag props
  | .node _ _ _ (.text text) => [.text text]
  | .node markup _ leadNewline (.slot slot) =>
      let value := markup.values.getD slot .undefined
      Step.lineFeed leadNewline value ++ [.inside around (.value value)]
  | .node markup top _ (.branch node nested) => Step.branch around markup top node nested

-----------------------------------------------------------------------------------------
-- Renderings
-----------------------------------------------------------------------------------------

/-- What rendering changes and does not undo. -/
structure Progress where
  store : Store
  output : Array Piece
  rootMarked : Bool

namespace Progress

def write (piece : Piece) (progress : Progress) : Progress :=
  { progress with output := progress.output.push piece }

/-- Writes a text, and a separator before it when text was written last. -/
def writeText (options : RenderOptions) (text : String) (progress : Progress) : Progress :=
  { progress with
    output :=
      if endsInText progress.output && !options.staticMarkup then
        (progress.output.push .separator).push (.text (Text.escape text))
      else
        progress.output.push (.text (Text.escape text)) }

/-- Marks the first element. -/
def markRoot (options : RenderOptions) (progress : Progress) : Progress :=
  { progress with
    rootMarked := true
    output :=
      if !progress.rootMarked && options.rootMarker && !options.staticMarkup then
        progress.output.push .rootMarker
      else
        progress.output }

end Progress

/-- Steps that succeed lead from what was there before to what is there after them, and subjects
are rendered in an order. Every step is made in the surroundings that it names, of selections only
if all that are entered are left.
-/
inductive Rendering (cx : RenderSettings) (paired : Prop)
    : List Step → List Subject → Progress → Progress → Prop
  | done {start : Progress} : Rendering cx paired [] [] start start
  | write {piece : Piece} {steps : List Step} {subjects : List Subject} {start finish : Progress}
    (rest : Rendering cx paired steps subjects (start.write piece) finish)
    : Rendering cx paired (.write piece :: steps) subjects start finish
  | text {text : String} {steps : List Step} {subjects : List Subject} {start finish : Progress}
    (rest : Rendering cx paired steps subjects (start.writeText cx.options text) finish)
    : Rendering cx paired (.text text :: steps) subjects start finish
  | rootMarker {steps : List Step} {subjects : List Subject} {start finish : Progress}
    (rest : Rendering cx paired steps subjects (start.markRoot cx.options) finish)
    : Rendering cx paired (.rootMarker :: steps) subjects start finish
  | run {around here : Surroundings} {body : Body Value} {value : Value} {store : Store}
    {steps : List Step} {subjects : List Subject} {start finish : Progress}
    (agrees : here.Agrees paired around)
    (runs : body.run cx.settings cx.inner here.context start.store = (.ok value, store))
    (rest
      : Rendering cx paired (.inside here (.value value) :: steps) subjects { start with store }
          finish)
    : Rendering cx paired (.run around body :: steps) subjects start finish
  | inside {around here : Surroundings} {subject : Subject} {steps : List Step}
    {inner later : List Subject} {start middle finish : Progress}
    (agrees : here.Agrees paired around)
    (within : Rendering cx paired (stepsOf cx.host here subject) inner start middle)
    (rest : Rendering cx paired steps later middle finish)
    : Rendering cx paired (.inside around subject :: steps) (subject :: inner ++ later) start
        finish

end TaggedMarkup.Render
