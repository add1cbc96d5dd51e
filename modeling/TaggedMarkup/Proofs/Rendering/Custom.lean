import TaggedMarkup.Proofs.Rendering.Contents

/-! What a custom element is. The attributes of a custom element bypass the property table. An
element that is rendered from its properties is a custom one when its name has a hyphen or `is` is
among the properties, wherever it comes from. A program that writes the attributes of an element
one by one only knows `is` from the template. What is said here is when the two agree.
-/

namespace TaggedMarkup

open Stateful

-----------------------------------------------------------------------------------------
-- Nodes
-----------------------------------------------------------------------------------------

namespace Node

variable {node : Node} {tag : String} {values : List Value}

/-- Whether the merged properties of an element make it a custom one. -/
def isCustomMerged (node : Node) (tag : String) (values : List Value) : Bool :=
  Html.isCustomTag tag || Fields.contains (node.props values) "is"

/-- The merged properties have the names that attributes assign. -/
theorem contains_props_eq (node : Node) (values : List Value) (name : String)
    : Fields.contains (node.props values) name
      = node.attributes.any fun written =>
          Fields.contains (written.assignments values) name := by
  have merged
      : Fields.contains (node.props values) name = Fields.contains (node.sources values) name := by
    simp only [props, Fields.contains, List.any_map]
    rfl
  rw [merged, sources, Fields.ofEntries, Fields.contains_insertAll]
  simp only [Fields.contains, List.any_nil, Bool.false_or, List.any_flatMap]

/-- A name in the template is among the merged properties. -/
theorem contains_named {name : String} (named : node.hasNamed name = true) (values : List Value)
    : Fields.contains (node.props values) name = true := by
  obtain ⟨written, member, isNamed⟩ := List.any_eq_true.mp named
  rw [contains_props_eq]
  refine List.any_eq_true.mpr ⟨written, member, ?_⟩
  cases written with
  | named other value location =>
      obtain rfl := Option.some.inj (beq_iff_eq.mp isNamed)
      simp [Attribute.assignments, Fields.contains]
  | spread | dynamicName => cases beq_iff_eq.mp isNamed

/-- Whether what is compiled of an element writes the attributes of a custom one. -/
def isCustomCompiled (node : Node) (tag : String) (values : List Value) : Bool :=
  if Program.isInline tag then node.isCustom else node.isCustomMerged tag values

/-- What is compiled of an element agrees with its properties unless only a value says that the
element is a custom one.
-/
theorem isCustomCompiled_eq_iff (isElement : node.tag = .element tag)
    (noted
      : node.isCustom
        = node.elementName?.any fun tag => Html.isCustomTag tag || node.hasNamed "is")
    : node.isCustomCompiled tag values = node.isCustomMerged tag values
      ↔ (Program.isInline tag = true
        → Fields.contains (node.props values) "is" = true
        → Html.isCustomTag tag = true ∨ node.hasNamed "is" = true) := by
  cases isInline : Program.isInline tag with
  | false => simp [isCustomCompiled, isInline]
  | true =>
      simp only [isCustomCompiled, isInline, if_true, isCustomMerged, noted,
        elementName?_element isElement, Option.any_some, forall_const]
      cases Html.isCustomTag tag with
      | true => simp
      | false =>
          cases named : node.hasNamed "is" with
          | true => simp [contains_named named values]
          | false => cases Fields.contains (node.props values) "is" <;> simp

/-- The children between the tags do not decide about what an element is. -/
theorem contains_elementProps (node : Node) (values children : List Value)
    : Fields.contains (node.elementProps values children) "is"
      = Fields.contains (node.props values) "is" := by
  rw [Bool.eq_iff_iff, Fields.contains_iff, Fields.contains_iff,
    get?_elementProps node values children (by decide)]

end Node

-----------------------------------------------------------------------------------------
-- Opening an element
-----------------------------------------------------------------------------------------

namespace FormControl

/-- The properties of which a host element writes the attributes. An `option` looks at the
selection around it.
-/
def written (tag : String) (selection : Option Value) (props : Props) : Props :=
  if tag = "input" then
    inputProps props
  else if tag = "textarea" then
    textareaProps props
  else if tag = "option" then
    optionProps selection props
  else if tag = "select" then
    selectProps props
  else
    props

/-- A form control is a custom element when its properties make it one. -/
theorem contains_written (tag : String) (selection : Option Value) (props : Props)
    : Fields.contains (written tag selection props) "is" = Fields.contains props "is" := by
  have ofInput : Fields.contains [("type", Value.undefined)] "is" = false := rfl
  have ofOption
      : Fields.contains [("selected", Value.undefined), ("children", Value.undefined)] "is"
        = false :=
    rfl
  simp only [written]
  split
  · simp [inputProps, Fields.contains_insert, Fields.contains_insertAll, ofInput]
  split
  · simp [textareaProps, Fields.contains_insert]
  split
  · simp [optionProps, Fields.contains_insert, Fields.contains_insertAll, ofOption]
  split
  · simp [selectProps, Fields.contains_insert]
  · rfl

end FormControl

namespace Render

variable {cx : RenderSettings} {invoke : Invoke} {tag : String} {props : Props}
  {move move' opening rest children : Render Unit} {custom : Bool}

/-- Writes the name and the attributes of an element. -/
def openAs (custom : Bool) (tag : String) (fields : List (String × Value)) : Render Unit := do
  write (.openTag tag)
  writeOrFail (WrittenAttribute.ofProps fields custom)

/-- Writes the name and the attributes of a host element that is rendered from its properties. -/
def openHost (custom : Bool) (tag : String) (props : Props) : Render Unit := do
  let state ← get
  openAs custom tag (FormControl.written tag state.selections.head? props)

/-- A move opens an element and goes on, unless it fails whatever the state is. -/
def Opens (opening move : Render Unit) : Prop :=
  (∃ error, ∀ state, (move state).1 = .error error)
  ∨ ∃ rest, EndsAlike move (opening >>= fun _ => rest)

theorem Opens.of_eq (rest : Render Unit) (same : move = opening >>= fun _ => rest)
    : Opens opening move :=
  .inr ⟨rest, same ▸ .refl _⟩

theorem Opens.alike (opens : Opens opening move') (alike : EndsAlike move move')
    : Opens opening move := by
  rcases opens with ⟨error, fails⟩ | ⟨rest, ends⟩
  · refine .inl ⟨error, fun state => ?_⟩
    have same : (move state).1 = (move' state).1 := by
      rcases alike state with same | ⟨failure, reached, reached', failed, failed'⟩
      · rw [same]
      · rw [failed, failed']
    rw [same, fails]
  · exact .inr ⟨rest, alike.trans ends⟩

theorem Opens.andThen (opens : Opens opening move) (rest : Render Unit)
    : Opens opening (move >>= fun _ => rest) := by
  rcases opens with ⟨error, fails⟩ | ⟨others, ends⟩
  · refine .inl ⟨error, fun state => ?_⟩
    simp only [bind_apply]
    cases ended : move state with
    | mk result reached =>
        have isError : result = .error error := by simpa [ended] using fails state
        rw [isError]
  · refine .inr ⟨others >>= fun _ => rest, ?_⟩
    rw [← bind_assoc]
    exact ends.andThen (.refl rest)

/-- Finishes an element whose name and attributes have been written. -/
def closeElement (cx : RenderSettings) (tag : String) (content : Content)
    (renderChildren : Render Unit)
    : Render Unit := do
  writeRootMarker cx.options
  if Html.isVoid tag then
    write .selfClose
  else
    write .openEnd
    renderContent tag content renderChildren
    write (.closeTag tag)

/-- An element fails before anything of it is written, or opens and is finished. -/
theorem renderElement_opened (cx : RenderSettings) (tag : String) (props : Props)
    (children : Render Unit)
    : renderElement cx tag props children
      = match contentOf tag props with
        | .error error => throw error
        | .ok content =>
            (do
              openAs (Html.isCustomTag tag || Fields.contains props "is") tag props
              closeElement cx tag content children) := by
  simp only [renderElement, contentOf]
  split
  · rfl
  · cases Content.ofProps props with
    | error error => rfl
    | ok content =>
        simp only [writeOpenTag, openAs, closeElement, bind_assoc]

theorem opens_renderElement (cx : RenderSettings) (tag : String) (props : Props)
    (children : Render Unit)
    : Opens (openAs (Html.isCustomTag tag || Fields.contains props "is") tag props)
        (renderElement cx tag props children) := by
  rw [renderElement_opened]
  cases contentOf tag props with
  | error error => exact .inl ⟨error, fun _ => rfl⟩
  | ok content => exact .of_eq _ rfl

/-- An element that looks at no selection opens with the properties that it writes. -/
theorem openHost_eq {fields : Props}
    (fixed : ∀ selection, FormControl.written tag selection props = fields)
    : openHost custom tag props = openAs custom tag fields := by
  funext state
  simp only [openHost, fixed]
  rfl

theorem opens_of_written {fields : Props}
    (fixed : ∀ selection, FormControl.written tag selection props = fields)
    (children : Render Unit)
    : Opens (openHost (Html.isCustomTag tag || Fields.contains props "is") tag props)
        (renderElement cx tag fields children) := by
  have custom : Fields.contains props "is" = Fields.contains fields "is" := by
    rw [← fixed none, FormControl.contains_written]
  rw [openHost_eq fixed, custom]
  exact opens_renderElement cx tag fields children

/-- An `option` takes the same content inside of every selection. -/
theorem contentOf_option (tag : String) (selection other : Option Value) (props : Props)
    : contentOf tag (FormControl.optionProps selection props)
      = contentOf tag (FormControl.optionProps other props) := by
  apply contentOf_congr
  · simp only [FormControl.optionProps, Fields.get?_insert, if_true]
  · simp only [FormControl.optionProps, Fields.get?_insert]
    rfl

theorem opens_option (cx : RenderSettings) (props : Props) (text : Render Unit)
    : Opens (openHost (Html.isCustomTag "option" || Fields.contains props "is") "option" props)
        (do
          let state ← get
          renderElement cx "option" (FormControl.optionProps state.selections.head? props)
            text) := by
  have content (selection : Option Value) := contentOf_option "option" selection none props
  have custom (selection : Option Value)
      : Fields.contains (FormControl.optionProps selection props) "is"
        = Fields.contains props "is" :=
    FormControl.contains_written "option" selection props
  simp only [renderElement_opened, content, custom]
  cases contentOf "option" (FormControl.optionProps none props) with
  | error error => exact .inl ⟨error, fun _ => rfl⟩
  | ok content => exact .of_eq (closeElement cx "option" content text) rfl

/-- A host element opens as a custom one when its properties make it one. -/
theorem opens_renderHost (cx : RenderSettings) (tag : String) (props : Props)
    (children : Render Unit)
    : Opens (openHost (Html.isCustomTag tag || Fields.contains props "is") tag props)
        (renderHost cx tag props children) := by
  simp only [renderHost, renderControl, Program.isFormControl]
  by_cases isInput : tag = "input"
  · subst isInput
    exact opens_of_written (fun _ => rfl) _
  by_cases isTextarea : tag = "textarea"
  · subst isTextarea
    exact opens_of_written (fun _ => rfl) _
  by_cases isOption : tag = "option"
  · subst isOption
    exact opens_option cx props _
  by_cases isSelect : tag = "select"
  · subst isSelect
    exact opens_of_written (fun _ => rfl) _
  have others (selection : Option Value) : FormControl.written tag selection props = props := by
    simp only [FormControl.written, if_neg isInput, if_neg isTextarea, if_neg isOption,
      if_neg isSelect]
  simp only [beq_false_of_ne isInput, beq_false_of_ne isTextarea, beq_false_of_ne isOption,
    Bool.or_self, Bool.false_eq_true, if_false, if_neg isSelect]
  exact opens_of_written others children

end Render

-----------------------------------------------------------------------------------------
-- Programs and elements
-----------------------------------------------------------------------------------------

namespace Slots

variable {cx : RenderSettings} {invoke : Invoke} {slots : Slots} {branch : Branch} {tag : String}

/-- Writes the name and the attributes of a host element of a template. Most elements write what
each attribute passes on, and form elements write their merged properties.
-/
def openBranch (slots : Slots) (custom : Bool) (branch : Branch) (tag : String) : Render Unit :=
  if Program.isInline tag then
    Render.openAs custom tag ((branch.node.emissions slots.values).map Emission.field)
  else
    Render.openHost custom tag (slots.nodeProps branch).2

/-- The beginning of an element that is compiled opens the element. -/
theorem opens_openNode (isControl : Program.isFormControl tag = false) (top : Bool)
    : Render.Opens
        (slots.openBranch (branch.node.isCustomCompiled tag slots.values) branch tag)
        (slots.openNode cx branch.node tag top) := by
  by_cases isSelect : tag = "select"
  · subst isSelect
    let props := (slots.nodeProps branch).2
    have isProps : props = branch.node.elementProps slots.values _ := slots.nodeProps_eq branch
    have custom
        : Fields.contains (FormControl.selectProps props) "is"
          = Fields.contains (branch.node.props slots.values) "is" := by
      have own
          : Fields.contains (FormControl.selectProps props) "is" = Fields.contains props "is" :=
        FormControl.contains_written "select" none props
      rw [own, isProps, Node.contains_elementProps]
    have begins : slots.openSelection cx branch.node = Render.beginHost cx "select" props :=
      isProps ▸ openSelection_eq branch.node _
    have opens (custom : Bool)
        : slots.openBranch custom branch "select"
          = Render.openAs custom "select" (FormControl.selectProps props) :=
      Render.openHost_eq fun _ => rfl
    rw [opens]
    simp only [openNode, if_true, begins, Render.beginHost, Render.writeOpenTag, custom]
    refine .of_eq
      (do
        Render.writeRootMarker cx.options
        Render.pushSelection (FormControl.selectValue props))
      ?_
    have notInline : Program.isInline "select" = false := rfl
    simp only [Render.openAs, Node.isCustomCompiled, notInline, Bool.false_eq_true, if_false,
      Node.isCustomMerged, bind_assoc]
  · have isInline : Program.isInline tag = true := by simp [Program.isInline, isControl, isSelect]
    simp only [openNode, if_neg isSelect, openBranch, Node.isCustomCompiled, isInline, if_true]
    exact .of_eq (if top then Render.writeRootMarker cx.options else pure ()) rfl

/-- A node opens as a custom element when the template says so, or for a form element when its
merged properties do.
-/
theorem opens_renderNode (isElement : branch.node.tag = .element tag) (top leadNewline : Bool)
    : Render.Opens
        (slots.openBranch (branch.node.isCustomCompiled tag slots.values) branch tag)
        (slots.renderNode cx invoke top leadNewline
          (.branch branch.node branch.children)) := by
  have merged
      : Fields.contains (slots.nodeProps branch).2 "is"
        = Fields.contains (branch.node.props slots.values) "is" := by
    rw [nodeProps_eq, Node.contains_elementProps]
  cases isControl : Program.isFormControl tag with
  | true =>
      have notInline : Program.isInline tag = false := by simp [Program.isInline, isControl]
      have opens := Render.opens_renderHost cx tag (slots.nodeProps branch).2 (pure ())
      rw [merged] at opens
      rw [renderNode_control isElement isControl]
      simpa only [Render.renderHost, isControl, if_true, openBranch, notInline,
        Bool.false_eq_true, if_false, Node.isCustomCompiled, Node.isCustomMerged] using opens
  | false =>
      have opened := @opens_openNode cx slots branch tag isControl top
      cases isVoid : branch.node.isVoid with
      | true =>
          rw [renderNode_void isElement isControl isVoid]
          exact opened.andThen _
      | false =>
          rw [renderNode_around isElement isControl isVoid]
          exact opened.andThen _

end Slots

namespace Branch

/-- The program of a node and the element that the node is made into open alike: both write the
attributes of a custom element, or both write those of another one.
-/
structure BothOpen (cx : RenderSettings) (invoke : Invoke) (markup : Markup) (branch : Branch)
    (tag : String) (custom : Bool) (program : Program)
    : Prop where
  program
    : let slots := Slots.bound cx invoke markup
      Render.Opens (slots.openBranch custom branch tag) (slots.runProgram cx invoke program)
  element
    : let binding : ElementGraph.Binding :=
        {
          serial := markup.serial
          components := markup.template.components
          values := markup.values
        }
      let children := ElementGraph.childValues binding branch.children
      Render.Opens
        (Render.openHost custom tag (branch.node.elementProps markup.values children))
        (Render.renderValue cx invoke
          (.element (ElementGraph.elementOf binding branch.node children)))

/-- The program of a host element and the element that it is made into are a custom element when
the name has a hyphen or `is` is among the merged properties. For an element of which the program
writes the attributes one by one, the template has to name the `is` of the properties.
-/
theorem custom_agreement {markup : Markup} {branch : Branch} {tag : String}
    {top leadNewline : Bool} {output : Program.Output} (form : markup.template.Genuine)
    (member : branch ∈ markup.template.tree.branches) (isElement : branch.node.tag = .element tag)
    (known
      : Program.isInline tag = true
        → Fields.contains (branch.node.props markup.values) "is" = true
        → Html.isCustomTag tag = true ∨ branch.node.hasNamed "is" = true)
    (isOutput
      : Program.ofChild top leadNewline (.branch branch.node branch.children) = .ok output)
    (cx : RenderSettings) (invoke : Invoke)
    : branch.BothOpen cx invoke markup tag
        (Html.isCustomTag tag || Fields.contains (branch.node.props markup.values) "is")
        output.1 := by
  obtain ⟨resolver, options, fragments, parsed⟩ := form.parsed
  have read := Tree.parse_read parsed
  have noted := (read.roots.branches branch member).opened.named.isCustom
  have found
      : (Slots.bound cx invoke markup).Found
          (Child.branches (.branch branch.node branch.children)) :=
    Slots.found_branch read member
  constructor
  · have agrees := (Node.isCustomCompiled_eq_iff isElement noted).mpr known
    have opens := @Slots.opens_renderNode cx invoke (.bound cx invoke markup) branch tag
      isElement top leadNewline
    rw [show (Slots.bound cx invoke markup).values = markup.values from rfl, agrees] at opens
    exact opens.alike (Slots.runs_ofChild cx invoke _ found isOutput).program
  · intro binding children
    have opens := Render.opens_renderHost cx tag (branch.node.elementProps markup.values children)
      (Render.renderField cx invoke "children" (branch.node.elementProps markup.values children))
    rw [Node.contains_elementProps] at opens
    rw [Slots.renderValue_host isElement]
    exact opens

/-- A paragraph that names its `is` and spreads an object agrees. -/
theorem custom_agreement_named
    : let values : List Value := [.object [("is", .string "y"), ("className", .string "a")]]
      let cx : RenderSettings :=
        { settings := {}, options := {}, host := Host.constant fun _ => .undefined }
      ∃ form branch output,
        Compiled.Genuine form
        ∧ branch ∈ form.tree.branches
        ∧ branch.node.tag = .element "p"
        ∧ branch.node.hasNamed "is" = true
        ∧ Program.ofChild true false (.branch branch.node branch.children) = .ok output
        ∧ branch.BothOpen cx (Render.invoke cx 1) ⟨0, form, values, none⟩ "p"
            (Html.isCustomTag "p" || Fields.contains (branch.node.props values) "is") output.1 := by
  intro values cx
  let fragments := ["<p is=x ...", "></p>"]
  have checked
      : ((Tree.parse Resolver.empty {} fragments).bind fun tree =>
            (Compiled.ofTree tree []).map fun _ =>
              decide
                (∃ branch ∈ tree.branches,
                  branch.node.tag = .element "p"
                  ∧ branch.node.hasNamed "is" = true
                  ∧ (Program.ofChild true false (.branch branch.node branch.children)).toBool))
          = .ok true := by
    decide +kernel
  obtain ⟨tree, parsed, checked⟩ := exists_of_bind checked
  obtain ⟨form, compiled, checked⟩ := exists_of_map checked
  obtain ⟨root, -, rfl⟩ := Program.ofTree_eq compiled
  obtain ⟨branch, member, isElement, named, succeeds⟩ := of_decide_eq_true checked
  obtain ⟨output, isOutput⟩ := exists_of_isOk succeeds
  have genuine : Compiled.Genuine ⟨tree, [], root.1, root.2⟩ := ⟨⟨_, _, _, parsed⟩, compiled⟩
  exact ⟨_, branch, output, genuine, member, isElement, named, isOutput,
    @custom_agreement ⟨0, ⟨tree, [], root.1, root.2⟩, values, none⟩ _ _ _ _ _ genuine
      member isElement (fun _ _ => .inr named) isOutput cx _⟩

end Branch

namespace Engine

/-- An object that is spread makes an element with its `is` a custom one, and does not change what
the program of the element writes.
-/
theorem custom_disagreement
    : let engine := Engine.ofOptions {}
      let host := Host.constant fun _ => .undefined
      let template : Template := ⟨0, ["<div ...", "></div>"]⟩
      let values : List Value := [.object [("is", .string "x"), ("className", .string "a")]]
      (engine.render host false template values).1
        = .ok "<div is=\"x\" class=\"a\" data-reactroot=\"\"></div>"
      ∧ engine.renderElements host false template values
        = .ok "<div is=\"x\" className=\"a\" data-reactroot=\"\"></div>" := by
  decide +kernel

end Engine

end TaggedMarkup
