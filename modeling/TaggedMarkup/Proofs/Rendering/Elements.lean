import TaggedMarkup.Proofs.Rendering.Plain
import TaggedMarkup.Proofs.Rendering.Properties

/-! What rendering elements comes to. An element without markup of its own begins, renders its
children and ends, whatever gives it its children, and only what encloses the options of a
selection has to be put around them.
-/

namespace TaggedMarkup.Render

open Stateful

variable {cx : RenderSettings} {invoke : Invoke} {tag : String} {props : Props}

-----------------------------------------------------------------------------------------
-- Children
-----------------------------------------------------------------------------------------

/-- Renders a value if there is one. -/
def renderOptional (cx : RenderSettings) (invoke : Invoke) : Option Value → Render Unit
  | some value => renderValue cx invoke value
  | none => pure ()

theorem renderOptional_present (value : Option Value)
    : renderOptional cx invoke (value.bind Value.present?) = renderOptional cx invoke value := by
  cases value with
  | none => rfl
  | some value =>
      cases value with
      | undefined | null =>
          simp only [Option.bind_some, Value.present?, Value.isNullish, if_true, renderOptional,
            renderValue]
      | _ => rfl

/-- Rendering a field renders the value of its name, by induction on the fields. -/
theorem renderField_eq (name : String) (fields : List (String × Value))
    : renderField cx invoke name fields = renderOptional cx invoke (Fields.get? fields name) := by
  induction fields with
  | nil => simp only [renderField, Fields.get?, renderOptional]
  | cons field rest ih =>
      simp only [renderField, Fields.get?]
      split
      · rfl
      · exact ih

/-- Rendering the item at a position renders the value there, by induction on the items. -/
theorem renderItem_eq (items : List Value) (position : Nat)
    : renderItem cx invoke items position = renderOptional cx invoke items[position]? := by
  induction items generalizing position with
  | nil => simp only [renderItem, List.getElem?_nil, renderOptional]
  | cons item rest ih =>
      cases position with
      | zero => simp only [renderItem, List.getElem?_cons_zero, renderOptional]
      | succ position => simpa only [renderItem, List.getElem?_cons_succ] using ih position

/-- Rendering the field at a position renders the value there, by induction on the fields. -/
theorem renderFieldAt_eq (fields : List (String × Value)) (position : Nat)
    : renderFieldAt cx invoke fields position
      = renderOptional cx invoke (fields[position]?.map Prod.snd) := by
  induction fields generalizing position with
  | nil => simp only [renderFieldAt, List.getElem?_nil, Option.map_none, renderOptional]
  | cons field rest ih =>
      cases position with
      | zero =>
          simp only [renderFieldAt, List.getElem?_cons_zero, Option.map_some, renderOptional]
      | succ position => simpa only [renderFieldAt, List.getElem?_cons_succ] using ih position

/-- What there is of an optional value is rendered like the value that stands in for it. -/
theorem renderValue_getD (value : Option Value)
    : renderValue cx invoke (value.getD .undefined) = renderOptional cx invoke value := by
  cases value with
  | none => simp only [Option.getD_none, renderValue, renderOptional]
  | some value => rfl

/-- Rendering a field of the object at a position renders its value, by induction on the items.
-/
theorem renderItemField_eq (items : List Value) (position field : Nat)
    : renderItemField cx invoke items position field
      = renderValue cx invoke (Source.fieldAt field items[position]?) := by
  induction items generalizing position with
  | nil => simp only [renderItemField, List.getElem?_nil, Source.fieldAt, renderValue]
  | cons item rest ih =>
      cases position with
      | zero =>
          cases item with
          | object fields =>
              simp only [renderItemField, List.getElem?_cons_zero, Source.fieldAt,
                renderFieldAt_eq, renderValue_getD]
          | _ =>
              simp only [renderItemField, List.getElem?_cons_zero, Source.fieldAt, renderValue]
      | succ position => simpa only [renderItemField, List.getElem?_cons_succ] using ih position

/-- Children in a row render like the property that they become. -/
theorem renderValue_ofChildren (children : List Value)
    : renderValue cx invoke (Value.ofChildren children) = renderItems cx invoke children := by
  match children with
  | [] | _ :: _ :: _ => simp only [Value.ofChildren, renderValue]
  | [child] =>
      simp only [Value.ofChildren, renderItems]
      exact (bind_pure _).symm

/-- The children between the tags of an element are rendered in a row, and without any those
that its attributes give.
-/
theorem renderField_elementProps (node : Node) (values children : List Value)
    : renderField cx invoke "children" (node.elementProps values children)
      = if children.isEmpty then
          renderField cx invoke "children" (node.props values)
        else
          renderItems cx invoke children := by
  simp only [renderField_eq, Node.get?_elementProps_children]
  split
  · rfl
  · exact renderValue_ofChildren children

-----------------------------------------------------------------------------------------
-- Elements
-----------------------------------------------------------------------------------------

/-- Begins an element that is rendered from its properties and enters its content. -/
def beginHost (cx : RenderSettings) (tag : String) (props : Props) : Render Unit :=
  if tag = "select" then do
    writeOpenTag cx tag (FormControl.selectProps props)
    pushSelection (FormControl.selectValue props)
  else
    writeOpenTag cx tag props

/-- Ends an element and leaves its content. -/
def endHost (tag : String) : Render Unit := do
  write (.closeTag tag)
  if tag = "select" then popSelection else pure ()

/-- A selection may be entered before the open tag ends and left after the closing tag. -/
theorem selection_around (value : Value) (tag : String) (children : Render Unit)
    : (do
          write .openEnd
          pushSelection value
          children
          popSelection
          write (.closeTag tag))
      = (do
          pushSelection value
          write .openEnd
          children
          write (.closeTag tag)
          popSelection) := by
  funext state
  simp only [bind_apply, write_apply, pushSelection, popSelection, modify_apply]

/-- An element without markup of its own that loses no line feed begins, renders its children
and ends.
-/
theorem renderHost_around (notControl : Program.isFormControl tag = false)
    (notVoid : Html.isVoid tag = false) (keepsNewline : Html.eatsNewline tag = false)
    (noInner : Fields.get? props "dangerouslySetInnerHTML" = none)
    : renderHost cx tag props (renderField cx invoke "children" props)
      = (do
          beginHost cx tag props
          write .openEnd
          renderField cx invoke "children" props
          endHost tag) := by
  have element {given : Props} {children : Render Unit}
      (inside : Fields.get? given "children" = Fields.get? props "children")
      (inner : Fields.get? given "dangerouslySetInnerHTML" = none)
      (missing
        : (Fields.get? props "children").bind Value.present? = none → children = pure ())
      : renderElement cx tag given children
        = (do
            writeOpenTag cx tag given
            write .openEnd
            children
            write (.closeTag tag)) := by
    simp only [renderElement, notVoid, Bool.false_and, Bool.false_eq_true, if_false,
      Content.ofProps_children inner, inside]
    cases present : (Fields.get? props "children").bind Value.present? with
    | none => simp only [renderContent, missing present]
    | some value =>
        simp only [renderContent, renderChild, keepsNewline, Bool.false_and, Bool.false_eq_true,
          if_false]
  have nothing (missing : (Fields.get? props "children").bind Value.present? = none)
      : renderField cx invoke "children" props = pure () := by
    rw [renderField_eq, ← renderOptional_present, missing]
    rfl
  simp only [renderHost, notControl, Bool.false_eq_true, if_false, beginHost, endHost]
  split
  next isSelect =>
      subst isSelect
      have enclosed := selection_around (FormControl.selectValue props) "select"
        (renderField cx invoke "children" props)
      rw [element]
      · simp only [bind_assoc] at enclosed ⊢
        rw [enclosed]
      · rw [FormControl.selectProps, Fields.get?_insert, if_neg (by decide)]
      · rw [FormControl.selectProps, Fields.get?_insert, if_neg (by decide), noInner]
      · intro missing
        rw [nothing missing]
        rfl
  next =>
      rw [element rfl noInner nothing]
      simp only [bind_pure_unit]

/-- A void element without content begins and ends at once. -/
theorem renderHost_void {children : Render Unit} (notControl : Program.isFormControl tag = false)
    (isVoid : Html.isVoid tag = true)
    (noInner : Fields.get? props "dangerouslySetInnerHTML" = none)
    (missing : (Fields.get? props "children").bind Value.present? = none)
    : renderHost cx tag props children
      = (do
          beginHost cx tag props
          write .selfClose) := by
  have notSelect : tag ≠ "select" := by
    rintro rfl
    exact absurd isVoid (by decide)
  have noContent : hasContent props = false := by
    simp only [hasContent, missing, noInner, Option.bind_none, Option.isSome_none, Bool.or_false]
  simp only [renderHost, notControl, Bool.false_eq_true, if_false, if_neg notSelect, beginHost,
    renderElement, isVoid, noContent, Bool.and_false, Content.ofProps_children noInner, missing,
    if_true]

end TaggedMarkup.Render

namespace TaggedMarkup.Slots

/-- The values of a bound template, rendered like every value. -/
def bound (cx : RenderSettings) (invoke : Invoke) (markup : Markup) : Slots where
  serial := markup.serial
  template := markup.template
  values := markup.values
  renderSlot := Render.renderItem cx invoke markup.values
  renderField := Render.renderItemField cx invoke markup.values

variable {cx : RenderSettings} {invoke : Invoke} {markup : Markup}

/-- Rendering a bound template runs its program with its values. -/
theorem renderValue_markup (markup : Markup)
    : Render.renderValue cx invoke (.markup markup)
      = (bound cx invoke markup).render cx invoke markup.entry := by
  simp only [Render.renderValue]
  rfl

/-- The value at a source is rendered like every value. -/
theorem renderSource_bound (source : Source)
    : (bound cx invoke markup).renderSource cx source
      = Render.renderValue cx invoke (source.value markup.values) := by
  cases source with
  | literal text => simp only [renderSource, Source.value, Render.renderValue]
  | bare => simp only [renderSource, Source.value, Render.renderValue]
  | slot index =>
      simp only [renderSource, bound, Render.renderItem_eq, Source.value,
        List.getD_eq_getElem?_getD, Render.renderValue_getD]
  | field index position =>
      simp only [renderSource, bound, Render.renderItemField_eq, Source.value]

end TaggedMarkup.Slots
