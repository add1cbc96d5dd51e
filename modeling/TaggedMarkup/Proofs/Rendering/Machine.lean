import TaggedMarkup.Render.Value

/-! A render can be made in small steps. What is still to do is a stack of tasks, and a step does
the first of them or replaces it by the tasks it consists of. The steps know no limit to the
nesting of components, so they need not come to an end.
-/

namespace TaggedMarkup.Render

-----------------------------------------------------------------------------------------
-- Tasks
-----------------------------------------------------------------------------------------

/-- A part of a render that is still to do. -/
inductive Task where
  /-- Work in which no component and no code is run. -/
  | move (work : Render Unit)
  /-- A value that is due as a child. -/
  | value (value : Value)
  /-- Code that is due, with the value that it yields. -/
  | code (body : Body Value)
  | component (component : Component) (props : Props) (reference : Option Value)
  /-- The end of a component. -/
  | leave

namespace Task

/-- The child that properties give, if they give one. -/
def ofChildren (props : Props) : List Task :=
  (Fields.get? props "children").toList.map Task.value

/-- What goes into an element. `children` are the tasks of its children. -/
def ofContent (tag : String) (content : Content) (children : List Task) : List Task :=
  match content with
  | .children child => .move (renderChild (Html.eatsNewline tag) child (pure ())) :: children
  | content => [.move (renderContent tag content (pure ()))]

/-- An element with its properties as they are. -/
def ofElement (cx : RenderSettings) (tag : String) (props : Props) (children : List Task)
    : List Task :=
  if Html.isVoid tag && hasContent props then
    [.move (throw (.voidElementChildren tag))]
  else
    match Content.ofProps props with
    | .error error => [.move (throw error)]
    | .ok content =>
        .move (writeOpenTag cx tag props)
          :: if Html.isVoid tag then
              [.move (write .selfClose)]
            else
              .move (write .openEnd)
                :: (ofContent tag content children ++ [.move (write (.closeTag tag))])

def ofHost (cx : RenderSettings) (tag : String) (props : Props) (children : List Task)
    : List Task :=
  if Program.isFormControl tag then
    [.move (renderControl cx tag props)]
  else if tag = "select" then
    ofElement cx tag (FormControl.selectProps props)
      (.move (pushSelection (FormControl.selectValue props)) :: (children ++ [.move popSelection]))
  else
    ofElement cx tag props children

/-- The content that the attributes of a node give. -/
def ofGiven (slots : Slots) (node : Node) : List Task :=
  let tag := node.elementName?.getD ""
  let props := node.props slots.values
  match Content.ofProps props with
  | .error error => [.move (throw error)]
  | .ok .nothing => []
  | .ok content =>
      if node.isVoid then
        [.move (throw (.voidElementChildren tag))]
      else
        ofContent tag content (ofChildren props)

/-- The component of a node, with the children between its tags. -/
def ofComponentNode (slots : Slots) (id : Nat) (branch : Branch) : List Task :=
  match slots.template.component? id with
  | some found =>
      let (identity, props) := slots.nodeProps branch
      [.component found props identity.reference]
  | none => []

/-- A call of a program. Only the calls that are named here concern values or components. -/
def ofCall (cx : RenderSettings) (slots : Slots) : Call → List Task
  | .child slot leadNewline =>
      [.move (renderChild leadNewline (slots.value slot) (pure ())), .value (slots.value slot)]
  | .content id =>
      match slots.template.tree.branch? id with
      | some branch => ofGiven slots branch.node
      | none => []
  | .component id =>
      match slots.template.tree.branch? id with
      | some branch => ofComponentNode slots id branch
      | none => []
  | call => [.move (slots.runCall cx (fun _ _ _ => pure ()) call)]

def ofProgram (cx : RenderSettings) (slots : Slots) : Program → List Task
  | [] => []
  | .write piece :: rest => .move (write piece) :: ofProgram cx slots rest
  | .call call :: rest => ofCall cx slots call ++ ofProgram cx slots rest

/-- A value as a child. -/
def ofValue (cx : RenderSettings) : Value → List Task
  | .undefined | .null | .bool _ | .function _ | .symbol _ => []
  | .string text => [.move (renderText cx text)]
  | .number number => [.move (writeText cx.options (Text.escape number.text))]
  | .object fields => [.move (writeText cx.options (Text.escape (Value.object fields).text))]
  | .array items => items.map .value
  | .element ⟨_, _, kind, _, reference, props⟩ =>
      match kind with
      | .host tag => ofHost cx tag props (ofChildren props)
      | .component named => [.component named props reference]
      | .fragment => ofChildren props
  | .markup ⟨serial, template, values, entry⟩ =>
      match template.program? entry with
      | some program =>
          ofProgram cx
            {
              serial
              template
              values
              renderSlot := fun _ => pure ()
              renderField := fun _ _ => pure ()
            }
            program
      | none => []

/-- What a component renders. -/
def ofComponent (cx : RenderSettings) (props : Props) (reference : Option Value)
    : Component → List Task
  | .function number => [.code (cx.host.function number props)]
  | .stateful number =>
      let definition := cx.host.stateful number
      [.code ((definition.construct props).bind fun state =>
        definition.render (definition.willMount state) props)]
  | .forwardRef number => [.code (cx.host.forwardRef number props reference)]
  | .memo inner => ofComponent cx props reference inner
  | .provider context =>
      .move (pushProvider context ((Fields.get? props "value").getD .undefined))
        :: (ofChildren props ++ [.move popProvider])
  | .consumer context =>
      match Fields.get? props "children" with
      | some (.function closure) =>
          [.code (.context context fun value => cx.host.call closure [value])]
      | _ => [.move (throw .consumerChild)]
  | .fragment => ofChildren props
  | .alias tag => ofHost cx tag props (ofChildren props)

/-- How many components are still to end. -/
def nested : List Task → Nat
  | [] => 0
  | .leave :: rest => nested rest + 1
  | _ :: rest => nested rest

end Task

-----------------------------------------------------------------------------------------
-- Steps
-----------------------------------------------------------------------------------------

/-- A moment of a render. The render is over when nothing is left to do. -/
structure Moment where
  tasks : List Task
  state : RenderState
  /-- What the render has come to, which is a failure only when it is over. -/
  result : Except Error Unit := .ok ()

namespace Moment

def start (value : Value) (state : RenderState) : Moment :=
  { tasks := [.value value], state }

/-- How many component invocations are nested. -/
def nested (moment : Moment) : Nat :=
  Task.nested moment.tasks

/-- A component is due inside exactly the given number of others. -/
def DueInside (limit : Nat) (moment : Moment) : Prop :=
  ∃ component props reference rest,
    moment.tasks = .component component props reference :: rest ∧ Task.nested rest = limit

def CodeDue (moment : Moment) : Prop :=
  ∃ body rest, moment.tasks = .code body :: rest

/-- Goes on with what code yields, or ends in a failure. -/
def proceed {α : Type} (rest : α → List Task) : Except Error α × RenderState → Moment
  | (.ok value, state) => { tasks := rest value, state }
  | (.error error, state) => { tasks := [], state, result := .error error }

/-- Does the first task. A moment in which nothing is left to do stays as it is. -/
def next (cx : RenderSettings) (moment : Moment) : Moment :=
  match moment.tasks with
  | [] => moment
  | .move work :: rest => proceed (fun _ => rest) (work moment.state)
  | .value value :: rest => { moment with tasks := Task.ofValue cx value ++ rest }
  | .code body :: rest => proceed (fun value => .value value :: rest) (runBody cx body moment.state)
  | .component component props reference :: rest =>
      { moment with
        tasks := Task.ofComponent cx props reference component ++ .leave :: rest
        state := moment.state.deeper }
  | .leave :: rest => proceed (fun _ => rest) (leave moment.state)

/-- The moment after a number of steps. -/
def after (cx : RenderSettings) (moment : Moment) : Nat → Moment
  | 0 => moment
  | steps + 1 => after cx (moment.next cx) steps

end Moment

end TaggedMarkup.Render
