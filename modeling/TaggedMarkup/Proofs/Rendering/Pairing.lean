import TaggedMarkup.Render.Value
import TaggedMarkup.Proofs.Code

/-! Two renders of the same value make the same moves. A relation between the moves that holds
of each pair of basic ones and of their combinations therefore holds of the renders as wholes.
The second render may run bound templates in a way of its own. The induction over values, and the
one over the nesting of components, are done here once.
-/

namespace TaggedMarkup.Render

-----------------------------------------------------------------------------------------
-- Ways of running bound templates
-----------------------------------------------------------------------------------------

mutual

/-- Renders a value as a child. `bound` runs the program of a bound template. -/
def renderValueBy (cx : RenderSettings) (bound : Slots → Option Nat → Render Unit)
    (invoke : Invoke) : Value → Render Unit
  | .undefined | .null | .bool _ | .function _ | .symbol _ => pure ()
  | .string text => renderText cx text
  | .number number => writeText cx.options (Text.escape number.text)
  | .object fields => writeText cx.options (Text.escape (Value.object fields).text)
  | .array items => renderItemsBy cx bound invoke items
  | .element ⟨_, _, kind, _, reference, props⟩ =>
      match kind with
      | .host tag => renderHost cx tag props (renderFieldBy cx bound invoke "children" props)
      | .component component => invoke component props reference
      | .fragment => renderFieldBy cx bound invoke "children" props
  | .markup ⟨serial, template, values, entry⟩ =>
      bound
        {
          serial
          template
          values
          renderSlot := fun slot => renderItemBy cx bound invoke values slot
          renderField := fun slot position => renderItemFieldBy cx bound invoke values slot position
        }
        entry

def renderItemsBy (cx : RenderSettings) (bound : Slots → Option Nat → Render Unit)
    (invoke : Invoke) : List Value → Render Unit
  | [] => pure ()
  | item :: rest => do
      renderValueBy cx bound invoke item
      renderItemsBy cx bound invoke rest

def renderFieldBy (cx : RenderSettings) (bound : Slots → Option Nat → Render Unit)
    (invoke : Invoke) (name : String) : List (String × Value) → Render Unit
  | [] => pure ()
  | (other, value) :: rest =>
      if other = name then
        renderValueBy cx bound invoke value
      else
        renderFieldBy cx bound invoke name rest

def renderItemBy (cx : RenderSettings) (bound : Slots → Option Nat → Render Unit)
    (invoke : Invoke) : List Value → Nat → Render Unit
  | [], _ => pure ()
  | item :: _, 0 => renderValueBy cx bound invoke item
  | _ :: rest, position + 1 => renderItemBy cx bound invoke rest position

def renderItemFieldBy (cx : RenderSettings) (bound : Slots → Option Nat → Render Unit)
    (invoke : Invoke) : List Value → Nat → Nat → Render Unit
  | [], _, _ => pure ()
  | .object fields :: _, 0, field => renderFieldAtBy cx bound invoke fields field
  | _ :: _, 0, _ => pure ()
  | _ :: rest, position + 1, field => renderItemFieldBy cx bound invoke rest position field

def renderFieldAtBy (cx : RenderSettings) (bound : Slots → Option Nat → Render Unit)
    (invoke : Invoke) : List (String × Value) → Nat → Render Unit
  | [], _ => pure ()
  | (_, value) :: _, 0 => renderValueBy cx bound invoke value
  | _ :: rest, position + 1 => renderFieldAtBy cx bound invoke rest position

end

/-- Runs a component like `invoke`. -/
def invokeBy (cx : RenderSettings) (bound : Invoke → Slots → Option Nat → Render Unit)
    : Nat → Invoke
  | 0 => fun _ _ _ => throw (.recursionLimit cx.options.maxDepth)
  | remaining + 1 => fun component props reference => do
      let invoke := invokeBy cx bound remaining
      enter cx.options
      renderComponent cx (renderValueBy cx (bound invoke) invoke) props reference component
      leave

def renderRootBy (cx : RenderSettings) (bound : Invoke → Slots → Option Nat → Render Unit)
    (value : Value) : Render Unit :=
  let invoke := invokeBy cx bound (cx.options.maxDepth + 1)
  renderValueBy cx (bound invoke) invoke value

-----------------------------------------------------------------------------------------
-- Pairs
-----------------------------------------------------------------------------------------

/-- Two ways of running components are related whenever they are given the same component with
good properties.
-/
def InvokePair (good : Value → Prop) (pair : Render Unit → Render Unit → Prop)
    (first second : Invoke)
    : Prop :=
  ∀ component props reference,
    (∀ field ∈ props, good field.2)
    → (∀ value, reference = some value → good value)
    → pair (first component props reference) (second component props reference)

/-- What renders the slots and the fields of one bound template in two ways that are related. -/
structure SlotsPair (pair : Render Unit → Render Unit → Prop) (slots slots' : Slots) : Prop where
  serial : slots'.serial = slots.serial
  template : slots'.template = slots.template
  values : slots'.values = slots.values
  slot : ∀ slot, pair (slots.renderSlot slot) (slots'.renderSlot slot)
  field
    : ∀ slot position, pair (slots.renderField slot position) (slots'.renderField slot position)

namespace SlotsPair

variable {pair : Render Unit → Render Unit → Prop} {slots slots' : Slots}

/-- The children of a node as values are the same. -/
theorem childValue_same (slotsPair : SlotsPair pair slots slots')
    : slots'.childValue = slots.childValue := by
  funext child
  cases child <;>
    simp only [Slots.childValue, Slots.value, slotsPair.values, slotsPair.serial,
      slotsPair.template]

theorem nodeProps_same (slotsPair : SlotsPair pair slots slots') (branch : Branch)
    : slots'.nodeProps branch = slots.nodeProps branch := by
  simp only [Slots.nodeProps, slotsPair.values, slotsPair.childValue_same]

end SlotsPair

/-- A relation of moves that is kept by every way in which a render is put together. The second
render differs from the first in its options and in its way of running bound templates, and in no
limit of nesting.
-/
structure Pairing (cx : RenderSettings) (options : RenderOptions)
    (bound : Invoke → Slots → Option Nat → Render Unit) (good : Value → Prop)
    (known : Template → Prop) (pair : Render Unit → Render Unit → Prop)
    : Prop where
  limit : options.maxDepth = cx.options.maxDepth
  inherited : Value.Inherited good
  host : cx.host.Keeps good known
  nothing : pair (pure ()) (pure ())
  fail : ∀ error, pair (throw error) (throw error)
  andThen
    : ∀ {first first' second second' : Render Unit},
        pair first first'
        → pair second second'
        → pair (first >>= fun _ => second) (first' >>= fun _ => second')
  text : ∀ escaped, pair (writeText cx.options escaped) (writeText options escaped)
  element
    : ∀ tag props {children children' : Render Unit},
        (∀ field ∈ props, good field.2)
        → pair children children'
        → pair (renderHost cx tag props children)
            (renderHost { cx with options } tag props children')
  provided
    : ∀ context value {children children' : Render Unit},
        good value
        → pair children children'
        → pair
            (do pushProvider context value; children; popProvider)
            (do pushProvider context value; children'; popProvider)
  nested
    : ∀ {inner inner' : Render Unit},
        pair inner inner'
        → pair (do enter cx.options; inner; leave) (do enter options; inner'; leave)
  contextual
    : ∀ context {next next' : Value → Render Unit},
        (∀ value, good value → pair (next value) (next' value))
        → pair
            (do let state ← get; next (contextValue cx.host state.providers context))
            (do let state ← get; next' (contextValue cx.host state.providers context))
  code
    : ∀ (body : Body Value) {next next' : Value → Render Unit},
        body.Keeps good known
        → (∀ value, good value → pair (next value) (next' value))
        → pair (runBody cx body >>= next) (runBody { cx with options } body >>= next')
  markup
    : ∀ {serial template values entry} {invoke invoke' : Invoke}
        {renderSlot renderSlot' : Nat → Render Unit}
        {renderField renderField' : Nat → Nat → Render Unit},
        good (.markup ⟨serial, template, values, entry⟩)
        → InvokePair good pair invoke invoke'
        → (∀ slot, pair (renderSlot slot) (renderSlot' slot))
        → (∀ slot position, pair (renderField slot position) (renderField' slot position))
        → pair
            (Slots.render cx invoke
              ⟨serial, template, values, renderSlot, renderField⟩ entry)
            (bound invoke' ⟨serial, template, values, renderSlot', renderField'⟩ entry)
  slots
    : ∀ {serial template values entry},
        good (.markup ⟨serial, template, values, entry⟩) → ∀ value ∈ values, good value

namespace Pairing

variable {cx : RenderSettings} {options : RenderOptions}
  {bound : Invoke → Slots → Option Nat → Render Unit} {good : Value → Prop}
  {known : Template → Prop} {pair : Render Unit → Render Unit → Prop} {invoke invoke' : Invoke}

-----------------------------------------------------------------------------------------
-- Values
-----------------------------------------------------------------------------------------

mutual

/-- Rendering a good value is a pair of moves, by induction on the value. -/
theorem renderValue (pairing : Pairing cx options bound good known pair)
    (invokes : InvokePair good pair invoke invoke')
    : ∀ value,
        good value
        → pair (Render.renderValue cx invoke value)
            (renderValueBy { cx with options } (bound invoke') invoke' value)
  | .undefined, _ | .null, _ | .bool _, _ | .function _, _ | .symbol _, _ => by
      simpa only [Render.renderValue, renderValueBy] using pairing.nothing
  | .string text, _ => by
      simp only [Render.renderValue, renderValueBy, renderText]
      split
      · exact pairing.nothing
      · exact pairing.text _
  | .number _, _ | .object _, _ => by
      simpa only [Render.renderValue, renderValueBy] using pairing.text _
  | .array items, holds => by
      simpa only [Render.renderValue, renderValueBy]
        using renderItems pairing invokes items (pairing.inherited.array holds)
  | .element ⟨serial, part, .host tag, key, reference, props⟩, holds => by
      have fields := pairing.inherited.props holds
      simpa only [Render.renderValue, renderValueBy]
        using pairing.element tag props fields (renderField pairing invokes "children" props fields)
  | .element ⟨serial, part, .component component, key, reference, props⟩, holds => by
      simpa only [Render.renderValue, renderValueBy]
        using invokes component props reference (pairing.inherited.props holds)
          (pairing.inherited.reference holds)
  | .element ⟨serial, part, .fragment, key, reference, props⟩, holds => by
      simpa only [Render.renderValue, renderValueBy]
        using renderField pairing invokes "children" props (pairing.inherited.props holds)
  | .markup ⟨serial, template, values, entry⟩, holds => by
      simpa only [Render.renderValue, renderValueBy]
        using pairing.markup holds invokes
          (fun slot => renderItem pairing invokes values slot (pairing.slots holds))
          (fun slot position =>
            renderItemField pairing invokes values slot position (pairing.slots holds))

/-- Rendering good items in order is a pair of moves. -/
theorem renderItems (pairing : Pairing cx options bound good known pair)
    (invokes : InvokePair good pair invoke invoke')
    : ∀ items,
        (∀ item ∈ items, good item)
        → pair (Render.renderItems cx invoke items)
            (renderItemsBy { cx with options } (bound invoke') invoke' items)
  | [], _ => by simpa only [Render.renderItems, renderItemsBy] using pairing.nothing
  | item :: rest, holds => by
      simpa only [Render.renderItems, renderItemsBy]
        using pairing.andThen (renderValue pairing invokes item (holds item (by simp)))
          (renderItems pairing invokes rest (fun later member => holds later (by simp [member])))

/-- Rendering the field of a name is a pair of moves. -/
theorem renderField (pairing : Pairing cx options bound good known pair)
    (invokes : InvokePair good pair invoke invoke') (name : String)
    : ∀ fields : List (String × Value),
        (∀ field ∈ fields, good field.2)
        → pair (Render.renderField cx invoke name fields)
            (renderFieldBy { cx with options } (bound invoke') invoke' name fields)
  | [], _ => by simpa only [Render.renderField, renderFieldBy] using pairing.nothing
  | (other, value) :: rest, holds => by
      simp only [Render.renderField, renderFieldBy]
      split
      · exact renderValue pairing invokes value (holds (other, value) (by simp))
      · exact renderField pairing invokes name rest
          (fun field member => holds field (by simp [member]))

/-- Rendering the item at a position is a pair of moves. -/
theorem renderItem (pairing : Pairing cx options bound good known pair)
    (invokes : InvokePair good pair invoke invoke')
    : ∀ items position,
        (∀ item ∈ items, good item)
        → pair (Render.renderItem cx invoke items position)
            (renderItemBy { cx with options } (bound invoke') invoke' items position)
  | [], _, _ => by simpa only [Render.renderItem, renderItemBy] using pairing.nothing
  | item :: rest, 0, holds => by
      simpa only [Render.renderItem, renderItemBy]
        using renderValue pairing invokes item (holds item (by simp))
  | item :: rest, position + 1, holds => by
      simpa only [Render.renderItem, renderItemBy]
        using renderItem pairing invokes rest position
          (fun later member => holds later (by simp [member]))

/-- Rendering a field of the object at a position is a pair of moves. -/
theorem renderItemField (pairing : Pairing cx options bound good known pair)
    (invokes : InvokePair good pair invoke invoke')
    : ∀ items position field,
        (∀ item ∈ items, good item)
        → pair (Render.renderItemField cx invoke items position field)
            (renderItemFieldBy { cx with options } (bound invoke') invoke' items position field)
  | [], _, _, _ => by simpa only [Render.renderItemField, renderItemFieldBy] using pairing.nothing
  | .object fields :: rest, 0, field, holds => by
      simpa only [Render.renderItemField, renderItemFieldBy]
        using renderFieldAt pairing invokes fields field
          (pairing.inherited.object (holds (.object fields) (by simp)))
  | .undefined :: _, 0, _, _ | .null :: _, 0, _, _ | .bool _ :: _, 0, _, _
  | .number _ :: _, 0, _, _ | .string _ :: _, 0, _, _ | .array _ :: _, 0, _, _
  | .element _ :: _, 0, _, _ | .markup _ :: _, 0, _, _ | .function _ :: _, 0, _, _
  | .symbol _ :: _, 0, _, _ => by
      simpa only [Render.renderItemField, renderItemFieldBy] using pairing.nothing
  | item :: rest, position + 1, field, holds => by
      simpa only [Render.renderItemField, renderItemFieldBy]
        using renderItemField pairing invokes rest position field
          (fun later member => holds later (by simp [member]))

/-- Rendering the field at a position is a pair of moves. -/
theorem renderFieldAt (pairing : Pairing cx options bound good known pair)
    (invokes : InvokePair good pair invoke invoke')
    : ∀ (fields : List (String × Value)) position,
        (∀ field ∈ fields, good field.2)
        → pair (Render.renderFieldAt cx invoke fields position)
            (renderFieldAtBy { cx with options } (bound invoke') invoke' fields position)
  | [], _, _ => by simpa only [Render.renderFieldAt, renderFieldAtBy] using pairing.nothing
  | (name, value) :: rest, 0, holds => by
      simpa only [Render.renderFieldAt, renderFieldAtBy]
        using renderValue pairing invokes value (holds (name, value) (by simp))
  | field :: rest, position + 1, holds => by
      simpa only [Render.renderFieldAt, renderFieldAtBy]
        using renderFieldAt pairing invokes rest position
          (fun later member => holds later (by simp [member]))

end

-----------------------------------------------------------------------------------------
-- Components
-----------------------------------------------------------------------------------------

/-- Rendering the children that good properties give is a pair of moves. -/
theorem renderChildren (pairing : Pairing cx options bound good known pair)
    {renderAny renderAny' : Value → Render Unit}
    (renders : ∀ value, good value → pair (renderAny value) (renderAny' value))
    {props : Props} (holds : ∀ field ∈ props, good field.2)
    : pair (Render.renderChildren renderAny props) (Render.renderChildren renderAny' props) := by
  simp only [Render.renderChildren]
  split
  next children found => exact renders children (Fields.get?_of_forall holds found)
  next => exact pairing.nothing

/-- What a component renders is a pair of moves, by induction on the component. -/
theorem renderComponent (pairing : Pairing cx options bound good known pair)
    {renderAny renderAny' : Value → Render Unit}
    (renders : ∀ value, good value → pair (renderAny value) (renderAny' value))
    {props : Props} (holds : ∀ field ∈ props, good field.2)
    {reference : Option Value} (refers : ∀ value, reference = some value → good value)
    (component : Component)
    : pair (Render.renderComponent cx renderAny props reference component)
        (Render.renderComponent { cx with options } renderAny' props reference component) := by
  induction component with
  | function code =>
      exact pairing.code _ (pairing.host.function code props holds) renders
  | stateful code =>
      apply pairing.code _ (pairing.host.construct code props holds)
      intro state stateGood
      have mounted := pairing.host.willMount code state stateGood
      exact pairing.code _ (pairing.host.stateful code _ props mounted holds) renders
  | forwardRef code =>
      exact pairing.code _ (pairing.host.forwardRef code props reference holds refers) renders
  | memo inner ih => exact ih
  | provider context =>
      have value := Fields.getD_of_forall pairing.inherited.undefined holds "value"
      exact pairing.provided context _ value (pairing.renderChildren renders holds)
  | consumer context =>
      simp only [Render.renderComponent]
      split
      next closure found =>
          have callee := Fields.get?_of_forall holds found
          have calls (value : Value) (valueGood : good value)
              : pair (runBody cx (cx.host.call closure [value]) >>= renderAny)
                  (runBody { cx with options } (cx.host.call closure [value])
                    >>= renderAny') :=
            pairing.code _ (pairing.host.call closure [value] callee (by simpa using valueGood))
              renders
          exact pairing.contextual context calls
      next => exact pairing.fail _
  | fragment => exact pairing.renderChildren renders holds
  | «alias» tag => exact pairing.element tag props holds (pairing.renderChildren renders holds)

/-- Running components is related whatever the recursion begins with, by induction on that. -/
theorem invocations (pairing : Pairing cx options bound good known pair) (remaining : Nat)
    : InvokePair good pair (Render.invoke cx remaining)
        (invokeBy { cx with options } bound remaining) := by
  induction remaining with
  | zero =>
      intro component props reference _ _
      simpa only [Render.invoke, invokeBy, pairing.limit] using pairing.fail _
  | succ remaining ih =>
      intro component props reference holds refers
      exact pairing.nested
        (pairing.renderComponent (pairing.renderValue ih) holds refers component)

/-- Rendering a good value at the root is a pair of moves. -/
theorem renderRoot (pairing : Pairing cx options bound good known pair) {value : Value}
    (holds : good value)
    : pair (Render.renderRoot cx value) (renderRootBy { cx with options } bound value) := by
  simpa only [Render.renderRoot, renderRootBy, pairing.limit]
    using pairing.renderValue (pairing.invocations (cx.options.maxDepth + 1)) value holds

end Pairing

/-- Equal moves are put together to equal moves. -/
theorem pairing_same (cx : RenderSettings)
    : Pairing cx cx.options (Slots.render cx) (fun _ => True) (fun _ => True) Eq where
  limit := rfl
  inherited := Value.inherited_true
  host := cx.host.keeps_true
  nothing := rfl
  fail _ := rfl
  andThen start rest := by rw [start, rest]
  text _ := rfl
  element _ _ _ _ _ inside := by rw [inside]
  provided _ _ _ _ _ inside := by rw [inside]
  nested inside := by rw [inside]
  contextual _ _ _ rest := by
    obtain rfl := funext fun value => rest value trivial
    rfl
  code _ _ _ _ rest := by
    obtain rfl := funext fun value => rest value trivial
    rfl
  markup _ invokes slot field := by
    obtain rfl := funext slot
    obtain rfl := funext fun place => funext (field place)
    obtain rfl := funext fun component => funext fun props => funext fun reference =>
      invokes component props reference (by simp) (by simp)
    rfl
  slots := by simp

/-- Bound templates are run by `Slots.render`. -/
theorem renderRootBy_render (cx : RenderSettings) (value : Value)
    : renderRootBy cx (Slots.render cx) value = Render.renderRoot cx value :=
  ((pairing_same cx).renderRoot trivial).symm

end TaggedMarkup.Render
