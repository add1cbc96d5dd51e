import TaggedMarkup.Proofs.Rendering.Following
import TaggedMarkup.Proofs.Rendering.TreeMode

/-! What goes into an element is decided from the children between its tags and from the two
properties that give content. Programs decide it for each kind of element in a place of its own,
and elements decide it from properties that the children are a part of. What is said here is
when both follow the one rule.
-/

namespace TaggedMarkup

open Stateful

-----------------------------------------------------------------------------------------
-- The rule
-----------------------------------------------------------------------------------------

/-- What goes into an element. -/
inductive Filling where
  /-- The children between its tags. -/
  | nested
  /-- What its properties give. -/
  | given (content : Content)

/-- The merged property of a name, unless it is `null` or `undefined`. -/
def Node.present? (node : Node) (values : List Value) (name : String) : Option Value :=
  (Fields.get? (node.props values) name).bind Value.present?

/-- The content that the properties of a node give an element. The two properties exclude each
other, and a void element may have neither.
-/
def Node.contentGiven (node : Node) (tag : String) (values : List Value)
    : Except Error Content :=
  match node.present? values "children", node.present? values "dangerouslySetInnerHTML" with
  | some _, some _ => .error .childrenConflict
  | some children, none =>
      if Html.isVoid tag then .error (.voidElementChildren tag) else .ok (.children children)
  | none, some inner =>
      if Html.isVoid tag then
        .error (.voidElementChildren tag)
      else
        match Content.innerHtml? inner with
        | .error error => .error error
        | .ok (some markup) => .ok (.innerHtml markup)
        | .ok none => .ok .nothing
  | none, none => .ok .nothing

/-- The rule for what goes into an element. Children between its tags come before what its
properties give.
-/
def Branch.filling (branch : Branch) (tag : String) (values : List Value)
    : Except Error Filling :=
  if branch.children.isEmpty then
    (branch.node.contentGiven tag values).map .given
  else
    .ok .nested

/-- Nothing is given to a void element unless it is an error. -/
theorem Node.contentGiven_void {node : Node} {tag : String} {values : List Value}
    {content : Content} (isVoid : Html.isVoid tag = true)
    (given : node.contentGiven tag values = .ok content)
    : content = .nothing := by
  simp only [contentGiven, isVoid, if_true] at given
  split at given
  · cases given
  · cases given
  · cases given
  · exact (Except.ok.inj given).symm

/-- Whether a value gives markup as it is. -/
def Content.isMarkup (value : Value) : Bool :=
  match innerHtml? value with
  | .ok (some _) => true
  | _ => false

/-- The text of the content of an `option`. -/
def Content.flatText : Content → String
  | .children value => FormControl.flatText value
  | .nothing | .innerHtml _ => ""

/-- An element for which programs and elements follow the rule. Elements take markup that is
given beside children for a conflict, and so does every `option`. Programs look for content
only where the template names it or spreads an object. The two check a void element in
different orders, so it may only be given one of the two properties, with a value.
-/
structure Branch.Settled (branch : Branch) (tag : String) (values : List Value) : Prop where
  isVoid : branch.node.isVoid = Html.isVoid tag
  nested
    : branch.children.isEmpty = false
      → branch.node.present? values "dangerouslySetInnerHTML" = none
  option : tag = "option" → branch.node.present? values "dangerouslySetInnerHTML" = none
  sourced
    : Program.isFormControl tag = false
      → branch.children.isEmpty = true
      → branch.node.hasContentSource = false
      → branch.node.present? values "children" = none
        ∧ branch.node.present? values "dangerouslySetInnerHTML" = none
  void
    : Html.isVoid tag = true
      → branch.node.present? values "dangerouslySetInnerHTML" ≠ none
      → branch.node.present? values "children" = none
        ∧ (Program.isFormControl tag = true
          ∨ (branch.node.present? values "dangerouslySetInnerHTML").any Content.isMarkup = true)

instance (branch : Branch) (tag : String) (values : List Value)
    : Decidable (branch.Settled tag values) :=
  decidable_of_iff
    (branch.node.isVoid = Html.isVoid tag
      ∧ (branch.children.isEmpty = false
        → branch.node.present? values "dangerouslySetInnerHTML" = none)
      ∧ (tag = "option" → branch.node.present? values "dangerouslySetInnerHTML" = none)
      ∧ (Program.isFormControl tag = false
        → branch.children.isEmpty = true
        → branch.node.hasContentSource = false
        → branch.node.present? values "children" = none
          ∧ branch.node.present? values "dangerouslySetInnerHTML" = none)
      ∧ (Html.isVoid tag = true
        → branch.node.present? values "dangerouslySetInnerHTML" ≠ none
        → branch.node.present? values "children" = none
          ∧ (Program.isFormControl tag = true
            ∨ (branch.node.present? values "dangerouslySetInnerHTML").any Content.isMarkup
              = true)))
    ⟨fun ⟨isVoid, nested, option, sourced, void⟩ => ⟨isVoid, nested, option, sourced, void⟩,
      fun settled =>
        ⟨settled.isVoid, settled.nested, settled.option, settled.sourced, settled.void⟩⟩

-----------------------------------------------------------------------------------------
-- Taking a decision
-----------------------------------------------------------------------------------------

namespace Render

/-- A move renders an element as it is decided. When the decision is an error, the move fails
with it, unless the beginning of the element fails on its own. Otherwise the element begins and
is finished with what goes into it.
-/
def Takes (move opening : Render Unit) (finish : Filling → Render Unit)
    : Except Error Filling → Prop
  | .error error =>
      ∀ state,
        (move state).1 = .error error
        ∨ ∃ failure, (opening state).1 = .error failure ∧ (move state).1 = .error failure
  | .ok filling => EndsAlike move (opening >>= fun _ => finish filling)

/-- Finishes an element that has begun. A void one ends at once, any other has its content. -/
def finishElement (tag : String) (content : Render Unit) : Render Unit :=
  if Html.isVoid tag then
    write .selfClose
  else do
    write .openEnd
    content
    endHost tag

/-- Begins an `input` or an `option`. -/
def beginControl (cx : RenderSettings) (tag : String) (props : Props) : Render Unit :=
  if tag = "input" then
    writeOpenTag cx tag (FormControl.inputProps props)
  else do
    let state ← get
    writeOpenTag cx tag (FormControl.optionProps state.selections.head? props)

/-- Renders what is given to an element. An `option` shows its text. -/
def renderFilling (cx : RenderSettings) (tag : String) (content : Content)
    (renderChildren : Render Unit)
    : Render Unit :=
  if tag = "option" then
    renderText cx content.flatText
  else
    renderContent tag content renderChildren

variable {cx : RenderSettings} {invoke : Invoke} {tag : String} {props : Props}
  {move move' opening rest children : Render Unit} {finish : Filling → Render Unit}
  {decision : Except Error Filling}

theorem Takes.throws (error : Error) (opening : Render Unit) (finish : Filling → Render Unit)
    : Takes (throw error) opening finish (.error error) :=
  fun _ => .inl rfl

/-- The move may be made in another way. -/
theorem Takes.alike (alike : EndsAlike move move') (takes : Takes move' opening finish decision)
    : Takes move opening finish decision := by
  cases decision with
  | ok filling => exact alike.trans takes
  | error error =>
      intro state
      have ends : (move state).1 = (move' state).1 := by
        rcases alike state with same | ⟨failure, reached, reached', failed, failed'⟩
        · rw [same]
        · rw [failed, failed']
      rw [ends]
      exact takes state

/-- An element may begin before it fails. -/
theorem Takes.late {error : Error} (fails : ∀ state, (rest state).1 = .error error)
    : Takes (opening >>= fun _ => rest) opening finish (.error error) := by
  intro state
  simp only [bind_apply]
  cases opening state with
  | mk result reached =>
      cases result with
      | ok => exact .inl (fails reached)
      | error failure => exact .inr ⟨failure, rfl, rfl⟩

-----------------------------------------------------------------------------------------
-- Elements
-----------------------------------------------------------------------------------------

/-- The content that an element takes from its properties. -/
def contentOf (tag : String) (props : Props) : Except Error Content :=
  if Html.isVoid tag && hasContent props then
    .error (.voidElementChildren tag)
  else
    Content.ofProps props

/-- What an element takes depends on the two properties that give content. -/
theorem contentOf_congr {other : Props}
    (inside : Fields.get? props "children" = Fields.get? other "children")
    (inner
      : Fields.get? props "dangerouslySetInnerHTML"
        = Fields.get? other "dangerouslySetInnerHTML")
    : contentOf tag props = contentOf tag other := by
  have content : Content.ofProps props = Content.ofProps other := by
    simp only [Content.ofProps, inside, inner]
  have has : hasContent props = hasContent other := by
    simp only [hasContent, inside, inner]
  rw [contentOf, contentOf, content, has]

/-- An element fails before it begins, or begins and is finished with its content. -/
theorem renderElement_eq (notSelect : tag ≠ "select")
    : renderElement cx tag props children
      = match contentOf tag props with
        | .error error => throw error
        | .ok content =>
            (do
              writeOpenTag cx tag props
              finishElement tag (renderContent tag content children)) := by
  simp only [renderElement, contentOf]
  split
  · rfl
  · cases Content.ofProps props with
    | error error => rfl
    | ok content => simp only [finishElement, endHost, if_neg notSelect, bind_pure_unit]

/-- A selection may be entered before its content is looked at. -/
theorem renderContent_selecting (content : Content) (value : Value)
    : renderContent tag content (do pushSelection value; children; popSelection)
      = (do
          pushSelection value
          renderContent tag content children
          popSelection) := by
  funext state
  cases content with
  | nothing => rfl
  | innerHtml markup =>
      simp only [renderContent]
      split <;> rfl
  | children value =>
      simp only [renderContent, renderChild]
      split <;> rfl

/-- A host element that is no form control fails before it begins, or begins and is finished
with its content.
-/
theorem renderHost_eq (notControl : Program.isFormControl tag = false)
    : renderHost cx tag props children
      = match contentOf tag props with
        | .error error => throw error
        | .ok content =>
            (do
              beginHost cx tag props
              finishElement tag (renderContent tag content children)) := by
  simp only [renderHost, notControl, Bool.false_eq_true, if_false, beginHost]
  split
  next isSelect =>
      subst isSelect
      have same : contentOf "select" (FormControl.selectProps props) = contentOf "select" props :=
        contentOf_congr (by rw [FormControl.selectProps, Fields.get?_insert, if_neg (by decide)])
          (by rw [FormControl.selectProps, Fields.get?_insert, if_neg (by decide)])
      rw [← same]
      simp only [renderElement, contentOf]
      have notVoid : Html.isVoid "select" = false := by decide
      simp only [notVoid, Bool.false_and, Bool.false_eq_true, if_false, finishElement]
      cases Content.ofProps (FormControl.selectProps props) with
      | error error => rfl
      | ok content =>
          have enclosed := selection_around (FormControl.selectValue props) "select"
            (renderContent "select" content children)
          simp only [renderContent_selecting, endHost, if_true, bind_assoc] at enclosed ⊢
          rw [enclosed]
  next notSelect => exact renderElement_eq notSelect

end Render

-----------------------------------------------------------------------------------------
-- Properties of elements
-----------------------------------------------------------------------------------------

/-- The content that children are, if there are any. -/
def Content.ofChildren? : Option Value → Content
  | some value => .children value
  | none => .nothing

/-- What goes into an element as content. -/
def Filling.content (nested : Value) : Filling → Content
  | .nested => .ofChildren? nested.present?
  | .given content => content

section

variable {cx : RenderSettings} {invoke : Invoke} {branch : Branch} {tag : String}
  {values children : List Value} {nested : Value}

theorem Branch.filling_nested (some : branch.children.isEmpty = false) (tag : String)
    (values : List Value)
    : branch.filling tag values = .ok .nested := by
  simp only [filling, some, Bool.false_eq_true, if_false]

/-- A void element has no children between its tags. -/
theorem Branch.Settled.notVoid (settled : branch.Settled tag values)
    (childless : branch.node.isVoid = true → branch.children = [])
    (some : branch.children.isEmpty = false)
    : Html.isVoid tag = false := by
  cases isVoid : Html.isVoid tag with
  | false => rfl
  | true => simp [childless (settled.isVoid.trans isVoid)] at some

theorem Node.present?_elementProps (node : Node) (values children : List Value)
    : (Fields.get? (node.elementProps values children) "dangerouslySetInnerHTML").bind
        Value.present?
      = node.present? values "dangerouslySetInnerHTML" := by
  rw [get?_elementProps _ _ _ (by decide)]
  rfl

/-- An element takes from its properties what the rule says. -/
theorem Branch.Settled.contentOf (settled : branch.Settled tag values)
    (childless : branch.node.isVoid = true → branch.children = [])
    (same : children.isEmpty = branch.children.isEmpty)
    : Render.contentOf tag (branch.node.elementProps values children)
      = (branch.filling tag values).map (Filling.content (Value.ofChildren children)) := by
  have inner := branch.node.present?_elementProps values children
  have inside
      : (Fields.get? (branch.node.elementProps values children) "children").bind Value.present?
        = if branch.children.isEmpty then
            branch.node.present? values "children"
          else
            (Value.ofChildren children).present? := by
    rw [Node.get?_elementProps_children, same]
    split <;> rfl
  simp only [Render.contentOf, Render.hasContent, Content.ofProps, inner, inside]
  cases isEmpty : branch.children.isEmpty with
  | false =>
      have notVoid := settled.notVoid childless isEmpty
      rw [filling_nested isEmpty, settled.nested isEmpty]
      simp only [notVoid, Bool.false_and, Bool.false_eq_true, if_false, Except.map,
        Filling.content]
      cases (Value.ofChildren children).present? <;> rfl
  | true =>
      have void := settled.void
      simp only [filling, Node.contentGiven, isEmpty, if_true]
      cases isInside : branch.node.present? values "children" with
      | none =>
          cases isInner : branch.node.present? values "dangerouslySetInnerHTML" with
          | none => simp [Except.map, Filling.content]
          | some inner =>
              cases isVoid : Html.isVoid tag with
              | true => simp [Except.map]
              | false =>
                  simp only [Bool.false_and, Bool.false_eq_true, if_false]
                  cases Content.innerHtml? inner with
                  | error error => rfl
                  | ok markup => cases markup <;> rfl
      | some value =>
          cases isInner : branch.node.present? values "dangerouslySetInnerHTML" with
          | none => cases Html.isVoid tag <;> simp [Except.map, Filling.content]
          | some inner =>
              cases isVoid : Html.isVoid tag with
              | true => simpa [isInside, isInner] using void isVoid
              | false => simp [Except.map]

/-- A program without children to run takes from the properties of a node what the rule says. -/
theorem Branch.Settled.contentGiven (settled : branch.Settled tag values)
    (isInline : Program.isFormControl tag = false)
    : branch.node.contentGiven tag values
      = match Content.ofProps (branch.node.props values) with
        | .error error => .error error
        | .ok .nothing => .ok .nothing
        | .ok content =>
            if Html.isVoid tag then .error (.voidElementChildren tag) else .ok content := by
  have merged (name : String)
      : (Fields.get? (branch.node.props values) name).bind Value.present?
        = branch.node.present? values name :=
    rfl
  simp only [Content.ofProps, merged, Node.contentGiven]
  cases isInside : branch.node.present? values "children" with
  | some value => cases branch.node.present? values "dangerouslySetInnerHTML" <;> rfl
  | none =>
      cases isInner : branch.node.present? values "dangerouslySetInnerHTML" with
      | none => rfl
      | some inner =>
          cases isVoid : Html.isVoid tag with
          | false =>
              simp only [Bool.false_eq_true, if_false]
              cases Content.innerHtml? inner with
              | error error => rfl
              | ok markup => cases markup <;> rfl
          | true =>
              obtain ⟨-, isControl | isMarkup⟩ := settled.void isVoid (by simp [isInner])
              · cases isInline.symm.trans isControl
              · simp only [isInner, Option.any_some, Content.isMarkup] at isMarkup
                split at isMarkup
                next markup given => simp only [given, if_true]
                next => cases isMarkup

/-- The names of the properties of an element are different. -/
theorem Node.distinct_elementProps (node : Node) (values children : List Value)
    : (Fields.names (node.elementProps values children)).Nodup := by
  have merged : (Fields.names (node.props values)).Nodup := by
    have sources := Fields.distinct_ofEntries
      (node.attributes.flatMap (Attribute.assignments values))
    rw [props, Fields.names, List.map_map]
    exact sources
  have own : (Fields.names (splitIdentity (node.props values)).2).Nodup :=
    Fields.distinct_erase (Fields.distinct_erase merged _) _
  simp only [elementProps]
  split
  · exact own
  · exact Fields.distinct_insert own _ _

end

-----------------------------------------------------------------------------------------
-- Form controls
-----------------------------------------------------------------------------------------

theorem Program.isFormControl_eq {tag : String} (isControl : isFormControl tag = true)
    (notTextarea : tag ≠ "textarea")
    : tag = "input" ∨ tag = "option" := by
  simp only [isFormControl, Bool.or_eq_true, beq_iff_eq] at isControl
  tauto

namespace Render

variable {cx : RenderSettings} {invoke : Invoke} {branch : Branch} {tag : String}
  {values children : List Value}

/-- An `input` is rendered as its properties say apart from its value. -/
theorem contentOf_inputProps (props : Props) (distinct : (Fields.names props).Nodup)
    : contentOf tag (FormControl.inputProps props) = contentOf tag props := by
  have unchanged (name : String)
      (other : "checked" ≠ name ∧ "value" ≠ name ∧ "type" ≠ name)
      : Fields.get? (FormControl.inputProps props) name = Fields.get? props name := by
    have first : Fields.get? [("type", Value.undefined)] name = none := by
      simp only [Fields.get?, if_neg other.2.2]
    rw [FormControl.inputProps, Fields.get?_insert, if_neg other.1, Fields.get?_insert,
      if_neg other.2.1, Fields.get?_insertAll, Fields.get?_reverse distinct, first,
      Option.or_none]
  exact contentOf_congr (unchanged _ (by decide)) (unchanged _ (by decide))

/-- An `option` without markup has its text as content. -/
theorem contentOf_optionProps (selection : Option Value) (props : Props)
    (distinct : (Fields.names props).Nodup)
    (noInner
      : (Fields.get? props "dangerouslySetInnerHTML").bind Value.present? = none)
    : contentOf "option" (FormControl.optionProps selection props)
      = .ok (.children (.string (FormControl.optionText props))) := by
  have inner
      : Fields.get? (FormControl.optionProps selection props) "dangerouslySetInnerHTML"
        = Fields.get? props "dangerouslySetInnerHTML" := by
    have first
        : Fields.get? [("selected", Value.undefined), ("children", Value.undefined)]
            "dangerouslySetInnerHTML"
          = none := by
      decide
    rw [FormControl.optionProps, Fields.get?_insert, if_neg (by decide), Fields.get?_insert,
      if_neg (by decide), Fields.get?_insertAll, Fields.get?_reverse distinct, first,
      Option.or_none]
  have inside
      : Fields.get? (FormControl.optionProps selection props) "children"
        = some (.string (FormControl.optionText props)) := by
    rw [FormControl.optionProps, Fields.get?_insert, if_pos rfl]
  have notVoid : Html.isVoid "option" = false := by decide
  simp only [contentOf, notVoid, Bool.false_and, Bool.false_eq_true, if_false, Content.ofProps,
    inner, inside, noInner]
  rfl

/-- A value that is not there has no text. -/
theorem flatText_present (value : Option Value)
    : (Content.ofChildren? (value.bind Value.present?)).flatText
      = FormControl.flatText (value.getD .undefined) := by
  cases value with
  | none => rfl
  | some value => cases value <;> rfl

/-- Something goes into every `option`, and its text is the text of that. -/
theorem filling_option (settled : branch.Settled "option" values)
    (same : children.isEmpty = branch.children.isEmpty)
    : ∃ filling,
        branch.filling "option" values = .ok filling
        ∧ FormControl.optionText (branch.node.elementProps values children)
          = (filling.content (Value.ofChildren children)).flatText := by
  have text (props : Props)
      : FormControl.optionText props
        = FormControl.flatText ((Fields.get? props "children").getD .undefined) := by
    rw [FormControl.optionText]
    cases Fields.get? props "children" <;> rfl
  rw [text, Node.get?_elementProps_children, same, ← flatText_present]
  cases isEmpty : branch.children.isEmpty with
  | false => exact ⟨.nested, Branch.filling_nested isEmpty .., rfl⟩
  | true =>
      have notVoid : Html.isVoid "option" = false := by decide
      have merged
          : (Fields.get? (branch.node.props values) "children").bind Value.present?
            = branch.node.present? values "children" :=
        rfl
      simp only [Branch.filling, Node.contentGiven, isEmpty, if_true, settled.option rfl,
        notVoid, Bool.false_eq_true, if_false, merged]
      cases branch.node.present? values "children" with
      | none => exact ⟨_, rfl, rfl⟩
      | some value => exact ⟨_, rfl, rfl⟩

/-- A form control follows the rule. -/
theorem takes_renderControl (settled : branch.Settled tag values)
    (childless : branch.node.isVoid = true → branch.children = [])
    (isControl : Program.isFormControl tag = true) (notTextarea : tag ≠ "textarea")
    (same : children.isEmpty = branch.children.isEmpty) (renderChildren : Render Unit)
    : Takes (renderControl cx tag (branch.node.elementProps values children))
        (beginControl cx tag (branch.node.elementProps values children))
        (fun filling =>
          finishElement tag
            (renderFilling cx tag (filling.content (Value.ofChildren children)) renderChildren))
        (branch.filling tag values) := by
  have distinct := branch.node.distinct_elementProps values children
  have content := settled.contentOf childless same
  simp only [renderControl, beginControl]
  by_cases isInput : tag = "input"
  · subst isInput
    simp only [if_true]
    rw [renderElement_eq (by decide), contentOf_inputProps _ distinct, content]
    cases branch.filling "input" values with
    | error error => exact .throws error _ _
    | ok filling => exact .refl _
  · obtain rfl : tag = "option" :=
      (Program.isFormControl_eq isControl notTextarea).resolve_left isInput
    obtain ⟨filling, isFilling, text⟩ := filling_option settled same
    have inner := (branch.node.present?_elementProps values children).trans
      (settled.option rfl)
    have chosen (selection : Option Value) := contentOf_optionProps selection _ distinct inner
    have keeps : Html.eatsNewline "option" = false := by decide
    simp only [if_neg isInput, reduceIte, renderElement_eq (show "option" ≠ "select" by decide),
      chosen, isFilling, Takes, renderFilling, ← text, renderContent, renderChild, keeps,
      Bool.false_and, Bool.false_eq_true, bind_assoc]
    exact .refl _

-----------------------------------------------------------------------------------------
-- Elements and programs
-----------------------------------------------------------------------------------------

/-- Begins an element that is rendered from its properties. -/
def beginElement (cx : RenderSettings) (tag : String) (props : Props) : Render Unit :=
  if Program.isFormControl tag then beginControl cx tag props else beginHost cx tag props

/-- An element that is rendered from its properties follows the rule. -/
theorem takes_renderHost (settled : branch.Settled tag values)
    (childless : branch.node.isVoid = true → branch.children = []) (notTextarea : tag ≠ "textarea")
    (same : children.isEmpty = branch.children.isEmpty) (renderChildren : Render Unit)
    : Takes (renderHost cx tag (branch.node.elementProps values children) renderChildren)
        (beginElement cx tag (branch.node.elementProps values children))
        (fun filling =>
          finishElement tag
            (renderFilling cx tag (filling.content (Value.ofChildren children)) renderChildren))
        (branch.filling tag values) := by
  cases isControl : Program.isFormControl tag with
  | true =>
      simp only [renderHost, beginElement, isControl, if_true]
      exact takes_renderControl settled childless isControl notTextarea same renderChildren
  | false =>
      have notOption : tag ≠ "option" := by
        rintro rfl
        exact absurd isControl (by decide)
      rw [renderHost_eq isControl, settled.contentOf childless same]
      simp only [beginElement, isControl, Bool.false_eq_true, if_false, renderFilling,
        if_neg notOption]
      cases branch.filling tag values with
      | error error => exact .throws error _ _
      | ok filling => exact .refl _

end Render

namespace Slots

/-- Begins a node of a bound template that is an element. -/
def beginNode (cx : RenderSettings) (slots : Slots) (branch : Branch) (tag : String) (top : Bool)
    : Render Unit :=
  if Program.isFormControl tag then
    Render.beginControl cx tag (slots.nodeProps branch).2
  else
    slots.openNode cx branch.node tag top

/-- Renders what goes into a node of a bound template. An `option` shows the text of its
children, wherever they are given.
-/
def fill (cx : RenderSettings) (invoke : Invoke) (slots : Slots) (branch : Branch) (tag : String)
    : Filling → Render Unit
  | .nested =>
      if tag = "option" then
        Render.renderText cx
          (FormControl.flatText (Value.ofChildren (branch.children.map slots.childValue)))
      else
        slots.renderNodes cx invoke false
          (branch.children.length == 1 && Html.eatsNewline tag) branch.children
  | .given content =>
      Render.renderFilling cx tag content
        (Render.renderField cx invoke "children" (branch.node.props slots.values))

variable {cx : RenderSettings} {invoke : Invoke} {markup : Markup} {branch : Branch}
  {tag : String}

/-- A node without children between its tags renders what its properties give. -/
theorem renderGiven_bound (settled : branch.Settled tag markup.values)
    (isElement : branch.node.tag = .element tag) (isInline : Program.isFormControl tag = false)
    (isEmpty : branch.children.isEmpty = true)
    : (bound cx invoke markup).renderGiven cx branch.node
      = match branch.node.contentGiven tag markup.values with
        | .error error => throw error
        | .ok content =>
            Render.renderContent tag content
              (Render.renderField cx invoke "children" (branch.node.props markup.values)) := by
  have decided := settled.contentGiven isInline
  simp only [renderGiven]
  cases sourced : branch.node.hasContentSource with
  | false =>
      obtain ⟨noInside, noInner⟩ := settled.sourced isInline isEmpty sourced
      simp only [Node.contentGiven, noInside, noInner]
      rfl
  | true =>
      simp only [if_true, renderContent, Node.elementName?_element isElement, Option.getD_some,
        settled.isVoid, decided]
      cases given : Content.ofProps (branch.node.props markup.values) with
      | error error => simp only [bound, given]
      | ok content =>
          cases content with
          | nothing =>
              simp only [bound, given]
              rfl
          | children value | innerHtml html =>
              simp only [bound, given]
              cases Html.isVoid tag with
              | true => rfl
              | false =>
                  simp only [Bool.false_eq_true, if_false]
                  refine congrArg (Render.renderContent tag _) ?_
                  rw [Render.renderField_eq, Node.props,
                    Fields.get?_map _ (Source.value markup.values)]
                  cases Fields.get? (branch.node.sources markup.values) "children" with
                  | none => rfl
                  | some source => exact renderSource_bound source

/-- A node of a bound template follows the rule when it is rendered where it stands. -/
theorem takes_renderNode (settled : branch.Settled tag markup.values)
    (childless : branch.node.isVoid = true → branch.children = [])
    (isElement : branch.node.tag = .element tag) (notTextarea : tag ≠ "textarea")
    (top leadNewline : Bool)
    : Render.Takes
        ((bound cx invoke markup).renderNode cx invoke top leadNewline
          (.branch branch.node branch.children))
        ((bound cx invoke markup).beginNode cx branch tag top)
        (fun filling =>
          Render.finishElement tag ((bound cx invoke markup).fill cx invoke branch tag filling))
        (branch.filling tag markup.values) := by
  cases isControl : Program.isFormControl tag with
  | true =>
      have same
          : (branch.children.map (bound cx invoke markup).childValue).isEmpty
            = branch.children.isEmpty :=
        List.isEmpty_map
      have takes := @Render.takes_renderControl cx branch tag markup.values _ settled childless
        isControl notTextarea same (pure ())
      rw [renderNode_control isElement isControl, nodeProps_eq]
      simp only [beginNode, isControl, if_true, nodeProps_eq]
      have finishes (filling : Filling)
          : Render.finishElement tag
              ((bound cx invoke markup).fill cx invoke branch tag filling)
            = Render.finishElement tag
                (Render.renderFilling cx tag
                  (filling.content
                    (Value.ofChildren (branch.children.map (bound cx invoke markup).childValue)))
                  (pure ())) := by
        obtain rfl | rfl := Program.isFormControl_eq isControl notTextarea
        · have isVoid : Html.isVoid "input" = true := by decide
          simp only [Render.finishElement, isVoid, if_true]
        · cases filling with
          | nested =>
              simp only [fill, if_true, Render.renderFilling, Filling.content]
              rw [← Option.bind_some (f := Value.present?), Render.flatText_present,
                Option.getD_some]
          | given content => simp only [fill, Render.renderFilling, if_true, Filling.content]
      simp only [finishes]
      exact takes
  | false =>
      have notOption : tag ≠ "option" := by
        rintro rfl
        exact absurd isControl (by decide)
      simp only [beginNode, isControl, Bool.false_eq_true, if_false]
      cases isEmpty : branch.children.isEmpty with
      | false =>
          have notVoid := settled.notVoid childless isEmpty
          rw [renderNode_around isElement isControl (settled.isVoid.trans notVoid), isEmpty,
            Branch.filling_nested isEmpty]
          simp only [Render.Takes, Render.finishElement, notVoid, Bool.false_eq_true, if_false,
            fill, if_neg notOption]
          exact .refl _
      | true =>
          have given := @renderGiven_bound cx invoke _ _ _ settled isElement isControl isEmpty
          simp only [Branch.filling, isEmpty, if_true]
          cases isVoid : Html.isVoid tag with
          | true =>
              rw [renderNode_void isElement isControl (settled.isVoid.trans isVoid), given]
              cases isContent : branch.node.contentGiven tag markup.values with
              | error error => exact .late fun state => rfl
              | ok content =>
                  obtain rfl := Node.contentGiven_void isVoid isContent
                  simp only [Render.renderContent, Except.map, Render.Takes, Render.finishElement,
                    isVoid, if_true]
                  exact .refl _
          | false =>
              rw [renderNode_around isElement isControl (settled.isVoid.trans isVoid), isEmpty,
                if_pos rfl, given]
              cases branch.node.contentGiven tag markup.values with
              | error error => exact .late fun state => rfl
              | ok content =>
                  simp only [Except.map, Render.Takes, Render.finishElement, isVoid,
                    Bool.false_eq_true, if_false, fill, Render.renderFilling, if_neg notOption]
                  exact .refl _

/-- The nodes of a tree that has been read are found at each of its nodes and inside of it. -/
theorem found_branch {slots : Slots} {resolver : Resolver} {options : ReadOptions}
    {tokens : List Token} (read : Tree.TreeRead resolver options tokens slots.template.tree)
    (member : branch ∈ slots.template.tree.branches)
    : Found slots (Child.branches (.branch branch.node branch.children)) := by
  intro inner isInner
  refine read.branch?_id ?_
  rcases List.mem_cons.mp isInner with rfl | inside
  · exact member
  · exact Child.branchesOf_inside _ member inside

/-- The program of a node follows the rule. -/
theorem takes_runProgram (settled : branch.Settled tag markup.values)
    (childless : branch.node.isVoid = true → branch.children = [])
    (isElement : branch.node.tag = .element tag) (notTextarea : tag ≠ "textarea")
    (found : Found (bound cx invoke markup) (Child.branches (.branch branch.node branch.children)))
    {top leadNewline : Bool} {output : Program.Output}
    (isOutput
      : Program.ofChild top leadNewline (.branch branch.node branch.children) = .ok output)
    : Render.Takes ((bound cx invoke markup).runProgram cx invoke output.1)
        ((bound cx invoke markup).beginNode cx branch tag top)
        (fun filling =>
          Render.finishElement tag ((bound cx invoke markup).fill cx invoke branch tag filling))
        (branch.filling tag markup.values) :=
  .alike (runs_ofChild cx invoke _ found isOutput).program
    (takes_renderNode settled childless isElement notTextarea top leadNewline)

end Slots

namespace Branch

/-- The program of a node and the element that the node is made into take the same decision
about what goes into the element.
-/
structure BothTake (cx : RenderSettings) (invoke : Invoke) (markup : Markup) (branch : Branch)
    (tag : String) (top : Bool) (program : Program) (decision : Except Error Filling)
    : Prop where
  program
    : let slots := Slots.bound cx invoke markup
      Render.Takes (slots.runProgram cx invoke program) (slots.beginNode cx branch tag top)
        (fun filling => Render.finishElement tag (slots.fill cx invoke branch tag filling))
        decision
  element
    : let binding : ElementGraph.Binding :=
        {
          serial := markup.serial
          components := markup.template.components
          values := markup.values
        }
      let children := ElementGraph.childValues binding branch.children
      let props := branch.node.elementProps markup.values children
      Render.Takes
        (Render.renderValue cx invoke
          (.element (ElementGraph.elementOf binding branch.node children)))
        (Render.beginElement cx tag props)
        (fun filling =>
          Render.finishElement tag
            (Render.renderFilling cx tag (filling.content (Value.ofChildren children))
              (Render.renderField cx invoke "children" props)))
        decision

/-- The program of a node and the element that it is made into follow the one rule for what goes
into an element, unless it is a `textarea`. Both fail with the error that the rule gives, or
both are finished with the children between the tags or with what the properties give.
-/
theorem content_agreement {markup : Markup} {branch : Branch} {tag : String}
    {top leadNewline : Bool} {output : Program.Output} (form : markup.template.Genuine)
    (member : branch ∈ markup.template.tree.branches) (isElement : branch.node.tag = .element tag)
    (notTextarea : tag ≠ "textarea") (settled : branch.Settled tag markup.values)
    (isOutput
      : Program.ofChild top leadNewline (.branch branch.node branch.children) = .ok output)
    (cx : RenderSettings) (invoke : Invoke)
    : branch.BothTake cx invoke markup tag top output.1 (branch.filling tag markup.values) := by
  obtain ⟨resolver, options, fragments, parsed⟩ := form.parsed
  have read := Tree.parse_read parsed
  have childless := (read.roots.branches branch member).childless
  have found
      : (Slots.bound cx invoke markup).Found
          (Child.branches (.branch branch.node branch.children)) :=
    Slots.found_branch read member
  constructor
  · exact Slots.takes_runProgram settled childless isElement notTextarea found isOutput
  · intro binding children props
    have same : children.isEmpty = branch.children.isEmpty := by
      simp only [children, Slots.childValues_eq, List.isEmpty_map]
    rw [Slots.renderValue_host isElement]
    exact Render.takes_renderHost settled childless notTextarea same _

/-- A paragraph into which a spread object puts markup follows the rule in both. -/
theorem content_agreement_inner
    : let values : List Value :=
        [.object [("dangerouslySetInnerHTML", .object [("__html", .string "<b>x</b>")])]]
      let cx : RenderSettings :=
        { settings := {}, options := {}, host := Host.constant fun _ => .undefined }
      ∃ form branch output,
        Compiled.Genuine form
        ∧ branch ∈ form.tree.branches
        ∧ branch.node.tag = .element "p"
        ∧ branch.Settled "p" values
        ∧ Program.ofChild true false (.branch branch.node branch.children) = .ok output
        ∧ branch.BothTake cx (Render.invoke cx 1) ⟨0, form, values, none⟩ "p" true output.1
            (branch.filling "p" values) := by
  intro values cx
  let fragments := ["<p ...", "></p>"]
  have checked
      : ((Tree.parse Resolver.empty {} fragments).bind fun tree =>
            (Compiled.ofTree tree []).map fun _ =>
              decide
                (∃ branch ∈ tree.branches,
                  branch.node.tag = .element "p"
                  ∧ branch.Settled "p" values
                  ∧ (Program.ofChild true false (.branch branch.node branch.children)).toBool))
          = .ok true := by
    decide +kernel
  obtain ⟨tree, parsed, checked⟩ := exists_of_bind checked
  obtain ⟨form, compiled, checked⟩ := exists_of_map checked
  obtain ⟨root, -, rfl⟩ := Program.ofTree_eq compiled
  obtain ⟨branch, member, isElement, settled, succeeds⟩ := of_decide_eq_true checked
  obtain ⟨output, isOutput⟩ := exists_of_isOk succeeds
  have genuine : Compiled.Genuine ⟨tree, [], root.1, root.2⟩ := ⟨⟨_, _, _, parsed⟩, compiled⟩
  exact ⟨_, branch, output, genuine, member, isElement, settled, isOutput,
    @content_agreement ⟨0, ⟨tree, [], root.1, root.2⟩, values, none⟩ _ _ _ _ _ genuine
      member isElement (by decide) settled isOutput cx _⟩

end Branch

namespace Engine

/-- Renders the elements that a template is made into. -/
def renderElements (engine : Engine) (host : Host) (static : Bool) (template : Template)
    (values : List Value)
    : Except Error String :=
  let (made, engine) := engine.createElement template values
  made.bind fun element => (engine.renderValue host static element).1

/-- Markup that is given beside children between the tags has no effect on the program of an
element, and is a conflict for the element that the node is made into.
-/
theorem content_disagreement
    : let engine := Engine.ofOptions {}
      let host := Host.constant fun _ => .undefined
      let template : Template := ⟨0, ["<div dangerouslySetInnerHTML=", ">text</div>"]⟩
      let values : List Value := [.object [("__html", .string "<b>x</b>")]]
      (engine.render host false template values).1 = .ok "<div data-reactroot=\"\">text</div>"
      ∧ engine.renderElements host false template values = .error .childrenConflict := by
  decide +kernel

/-- Programs do not look for content under a name that a value gives. -/
example
    : let engine := Engine.ofOptions {}
      let host := Host.constant fun _ => .undefined
      let template : Template := ⟨0, ["<div ", "></div>"]⟩
      let values : List Value := [.string "dangerouslySetInnerHTML"]
      (engine.render host false template values).1 = .ok "<div data-reactroot=\"\"></div>"
      ∧ engine.renderElements host false template values = .error .innerHtmlShape := by
  decide +kernel

/-- An `option` has its text as content, even where it only has markup. -/
example
    : let engine := Engine.ofOptions {}
      let host := Host.constant fun _ => .undefined
      let template : Template := ⟨0, ["<option dangerouslySetInnerHTML=", "></option>"]⟩
      let values : List Value := [.object [("__html", .string "x")]]
      (engine.render host false template values).1 = .error .childrenConflict
      ∧ engine.renderElements host false template values = .error .childrenConflict := by
  decide +kernel

end Engine

end TaggedMarkup
