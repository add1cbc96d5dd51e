import TaggedMarkup.Render.Template

/-! Rendering follows the structure of a value. Components are the only way from a value to
another one that is not part of it, and how many of them may be nested is limited.
-/

namespace TaggedMarkup.Render

mutual

/-- Renders a value as a child. Values without a text, truth values, functions and symbols
render nothing. -/
def renderValue (cx : RenderSettings) (invoke : Invoke) : Value → Render Unit
  | .undefined | .null | .bool _ | .function _ | .symbol _ => pure ()
  | .string text => renderText cx text
  | .number number => writeText cx.options (Text.escape number.text)
  | .object fields => writeText cx.options (Text.escape (Value.object fields).text)
  | .array items => renderItems cx invoke items
  | .element ⟨_, _, kind, _, reference, props⟩ =>
      match kind with
      | .host tag => renderHost cx tag props (renderField cx invoke "children" props)
      | .component component => invoke component props reference
      | .fragment => renderField cx invoke "children" props
  | .markup ⟨serial, template, values, entry⟩ =>
      Slots.render cx invoke
        {
          serial
          template
          values
          renderSlot := fun slot => renderItem cx invoke values slot
          renderField := fun slot position => renderItemField cx invoke values slot position
        }
        entry

/-- Renders the items of an array in order. -/
def renderItems (cx : RenderSettings) (invoke : Invoke) : List Value → Render Unit
  | [] => pure ()
  | item :: rest => do
      renderValue cx invoke item
      renderItems cx invoke rest

/-- Renders the first field of a name. -/
def renderField (cx : RenderSettings) (invoke : Invoke) (name : String)
    : List (String × Value) → Render Unit
  | [] => pure ()
  | (other, value) :: rest =>
      if other = name then renderValue cx invoke value else renderField cx invoke name rest

def renderItem (cx : RenderSettings) (invoke : Invoke) : List Value → Nat → Render Unit
  | [], _ => pure ()
  | item :: _, 0 => renderValue cx invoke item
  | _ :: rest, position + 1 => renderItem cx invoke rest position

/-- Renders a field of the object at a position. -/
def renderItemField (cx : RenderSettings) (invoke : Invoke)
    : List Value → Nat → Nat → Render Unit
  | [], _, _ => pure ()
  | .object fields :: _, 0, field => renderFieldAt cx invoke fields field
  | _ :: _, 0, _ => pure ()
  | _ :: rest, position + 1, field => renderItemField cx invoke rest position field

def renderFieldAt (cx : RenderSettings) (invoke : Invoke)
    : List (String × Value) → Nat → Render Unit
  | [], _ => pure ()
  | (_, value) :: _, 0 => renderValue cx invoke value
  | _ :: rest, position + 1 => renderFieldAt cx invoke rest position

end

/-- Renders the children that properties give, if they give any. -/
def renderChildren (renderAny : Value → Render Unit) (props : Props) : Render Unit :=
  match Fields.get? props "children" with
  | some children => renderAny children
  | none => pure ()

/-- What a component renders. `renderAny` renders what its code yields. -/
def renderComponent (cx : RenderSettings) (renderAny : Value → Render Unit) (props : Props)
    (reference : Option Value) : Component → Render Unit
  | .function code => do
      renderAny (← runBody cx (cx.host.function code props))
  | .stateful code => do
      let definition := cx.host.stateful code
      let state ← runBody cx (definition.construct props)
      renderAny (← runBody cx (definition.render (definition.willMount state) props))
  | .forwardRef code => do
      renderAny (← runBody cx (cx.host.forwardRef code props reference))
  | .memo inner => renderComponent cx renderAny props reference inner
  | .provider context => do
      pushProvider context ((Fields.get? props "value").getD .undefined)
      renderChildren renderAny props
      popProvider
  | .consumer context =>
      match Fields.get? props "children" with
      | some (.function closure) => do
          let state ← get
          let value := contextValue cx.host state.providers context
          renderAny (← runBody cx (cx.host.call closure [value]))
      | _ => throw .consumerChild
  | .fragment => renderChildren renderAny props
  | .alias tag => renderHost cx tag props (renderChildren renderAny props)

/-- Runs a component. The recursion is on a number of which each component that is nested in
another one takes one. The nesting is limited by the depth alone, so a number above the limit is
never used up. -/
def invoke (cx : RenderSettings) : Nat → Invoke
  | 0 => fun _ _ _ => throw (.recursionLimit cx.options.maxDepth)
  | remaining + 1 => fun component props reference => do
      enter cx.options
      renderComponent cx (renderValue cx (invoke cx remaining)) props reference component
      leave

def renderRoot (cx : RenderSettings) (value : Value) : Render Unit :=
  renderValue cx (invoke cx (cx.options.maxDepth + 1)) value

end TaggedMarkup.Render
