import TaggedMarkup.Proofs.Rendering.Inline
import TaggedMarkup.Proofs.Rendering.Unfolding

/-! Rendering follows its subject: values by their size, the nodes of bound templates by their
structure, and components by how many of them may still be nested.
-/

namespace TaggedMarkup

open Stateful

-----------------------------------------------------------------------------------------
-- Parts
-----------------------------------------------------------------------------------------

namespace Value

variable {value : Value}

theorem sizeOf_item {items : List Value} (member : value ∈ items)
    : sizeOf value < sizeOf (Value.array items) := by
  have := List.sizeOf_lt_of_mem member
  simp only [array.sizeOf_spec]
  omega

theorem sizeOf_field {fields : List (String × Value)} {field : String × Value}
    (member : field ∈ fields)
    : sizeOf field.2 < sizeOf fields := by
  obtain ⟨name, value⟩ := field
  have := List.sizeOf_lt_of_mem member
  simp only [Prod.mk.sizeOf_spec] at this ⊢
  omega

theorem sizeOf_prop {element : Element} {field : String × Value} (member : field ∈ element.props)
    : sizeOf field.2 < sizeOf (Value.element element) := by
  have := sizeOf_field member
  obtain ⟨serial, part, kind, key, reference, props⟩ := element
  simp only [element.sizeOf_spec, ElementOf.mk.sizeOf_spec] at this ⊢
  omega

theorem sizeOf_get? {element : Element} {name : String}
    (found : Fields.get? element.props name = some value)
    : sizeOf value < sizeOf (Value.element element) := by
  have smaller (field : String × Value) (member : field ∈ element.props)
      : sizeOf field.2 < sizeOf (Value.element element) :=
    sizeOf_prop member
  exact @Fields.get?_of_forall _ (sizeOf · < sizeOf (Value.element element)) _ _ _ smaller found

theorem sizeOf_slot {markup : Markup} (member : value ∈ markup.values)
    : sizeOf value < sizeOf (Value.markup markup) := by
  have := List.sizeOf_lt_of_mem member
  obtain ⟨serial, template, values, entry⟩ := markup
  simp only [markup.sizeOf_spec, MarkupOf.mk.sizeOf_spec] at this ⊢
  omega

theorem sizeOf_undefined (markup : Markup)
    : sizeOf Value.undefined < sizeOf (Value.markup markup) := by
  obtain ⟨serial, template, values, entry⟩ := markup
  simp only [markup.sizeOf_spec, MarkupOf.mk.sizeOf_spec, undefined.sizeOf_spec]
  omega

/-- What is in a slot is smaller than the bound template. -/
theorem sizeOf_getD (markup : Markup) (slot : Nat)
    : sizeOf (markup.values.getD slot .undefined) < sizeOf (Value.markup markup) := by
  rw [List.getD_eq_getElem?_getD]
  cases isHere : markup.values[slot]? with
  | none => exact sizeOf_undefined markup
  | some value => exact sizeOf_slot (List.mem_of_getElem? isHere)

/-- A field of what is in a slot is smaller than the bound template. -/
theorem sizeOf_fieldAt (markup : Markup) (slot position : Nat)
    : sizeOf (Source.fieldAt position markup.values[slot]?) < sizeOf (Value.markup markup) := by
  simp only [Source.fieldAt]
  split
  next fields isObject =>
      cases isHere : fields[position]? with
      | none => exact sizeOf_undefined markup
      | some field =>
          have inner := sizeOf_field (List.mem_of_getElem? isHere)
          have outer := sizeOf_slot (List.mem_of_getElem? isObject)
          simp only [object.sizeOf_spec] at outer
          simp only [Option.map_some, Option.getD_some]
          omega
  next => exact sizeOf_undefined markup

end Value

-----------------------------------------------------------------------------------------
-- Nodes inside
-----------------------------------------------------------------------------------------

mutual

/-- The nodes inside a node of a child are nodes of the child, by induction on the child. -/
theorem Child.branches_inside {outer inner : Branch}
    : ∀ child : Child,
        outer ∈ child.branches → inner ∈ Child.branchesOf outer.children → inner ∈ child.branches
  | .text _, member, _ | .slot _, member, _ => nomatch member
  | .branch node children, member, inside => by
      rcases List.mem_cons.mp member with rfl | member
      · exact List.mem_cons_of_mem _ inside
      · exact List.mem_cons_of_mem _ (Child.branchesOf_inside children member inside)

theorem Child.branchesOf_inside {outer inner : Branch}
    : ∀ children : List Child,
        outer ∈ Child.branchesOf children
        → inner ∈ Child.branchesOf outer.children
        → inner ∈ Child.branchesOf children
  | [], member, _ => nomatch member
  | first :: rest, member, inside => by
      rcases List.mem_append.mp member with member | member
      · exact List.mem_append_left _ (first.branches_inside member inside)
      · exact List.mem_append_right _ (Child.branchesOf_inside rest member inside)

end

/-- The nodes that a compiled template renders are nodes of its tree. -/
theorem Compiled.branches_roots (form : Compiled) (entry : Option Nat) {branch : Branch}
    (member : branch ∈ Child.branchesOf (form.roots entry))
    : branch ∈ form.tree.branches := by
  cases entry with
  | none => exact member
  | some id =>
      simp only [roots] at member
      split at member
      next =>
          cases found : form.tree.branch? id with
          | none => simp [found, Child.branchesOf] at member
          | some outer =>
              have isNode : outer ∈ form.tree.branches := List.mem_of_getElem? found
              simp only [found, Option.toList_some, List.map_cons, List.map_nil, Child.branchesOf,
                Child.branches, List.append_nil] at member
              rcases List.mem_cons.mp member with rfl | inside
              · exact isNode
              · exact Child.branchesOf_inside _ isNode inside
      next => simp [Child.branchesOf] at member

namespace Render

variable {cx : RenderSettings} {paired : Prop} {good : Value → Prop} {around : Surroundings}
  {invoke : Invoke}

/-- Running a component with good properties follows the component. -/
def InvokeFollows (cx : RenderSettings) (paired : Prop) (good : Value → Prop) (invoke : Invoke)
    : Prop :=
  ∀ component props reference,
    (∀ field ∈ props, good field.2)
    → (∀ value, reference = some value → good value)
    → Follows cx paired good (.component component props reference)
        (invoke component props reference)

-----------------------------------------------------------------------------------------
-- Bound templates
-----------------------------------------------------------------------------------------

/-- A bound template of which the values are rendered as they should be, and of which the nodes
have good properties.
-/
structure SlotsFollow (cx : RenderSettings) (paired : Prop) (good : Value → Prop)
    (markup : Markup) (slots : Slots)
    : Prop where
  serial : slots.serial = markup.serial
  template : slots.template = markup.template
  values : slots.values = markup.values
  slot
    : ∀ slot,
        Follows cx paired good (.value (markup.values.getD slot .undefined))
          (slots.renderSlot slot)
  field
    : ∀ slot position,
        Follows cx paired good (.value (Source.fieldAt position markup.values[slot]?))
          (slots.renderField slot position)
  props : ∀ branch, ∀ field ∈ ((Step.slots markup).nodeProps branch).2, good field.2
  reference
    : ∀ branch value,
        ((Step.slots markup).nodeProps branch).1.reference = some value → good value

namespace SlotsFollow

variable {markup : Markup} {slots : Slots} {node : Node} {tag : String}

theorem nodeProps (follow : SlotsFollow cx paired good markup slots) (branch : Branch)
    : slots.nodeProps branch = (Step.slots markup).nodeProps branch := by
  have childValue : slots.childValue = (Step.slots markup).childValue := by
    funext child
    cases child <;>
      simp only [Slots.childValue, Slots.value, Step.slots, follow.serial, follow.template,
        follow.values]
  simp only [Slots.nodeProps, childValue, follow.values]
  rfl

theorem renderSource (follow : SlotsFollow cx paired good markup slots) (source : Source)
    : Follows cx paired good (.value (source.value markup.values))
        (slots.renderSource cx source) := by
  cases source with
  | literal text => exact .of_unfolds fun _ => .renderText text
  | bare => exact .of_unfolds fun _ => .nothing
  | slot index => exact follow.slot index
  | field index position => exact follow.field index position

/-- Rendering the content that the attributes of an element may give. -/
theorem renderGiven (follow : SlotsFollow cx paired good markup slots)
    (isElement : node.tag = .element tag)
    : Unfolds cx paired good around (slots.renderGiven cx node)
        (Step.given around markup node tag) := by
  simp only [Slots.renderGiven, Step.given]
  split
  next =>
      simp only [Slots.renderContent, follow.values, Node.elementName?_element isElement]
      cases Content.ofProps (node.props markup.values) with
      | error error => exact .fail _ _
      | ok content =>
          cases content with
          | nothing => exact .nothing
          | children value | innerHtml html =>
              simp only [Option.getD_some]
              split
              · exact .fail _ _
              · apply Unfolds.renderContent tag _
                rw [Node.props, Fields.get?_map _ (Source.value markup.values)]
                cases Fields.get? (node.sources markup.values) "children" with
                | none => exact .nothing
                | some source => exact (follow.renderSource source).inside
  next => exact .nothing

/-- Beginning an element that is compiled inline, unless it is a selection. -/
theorem openNode (follow : SlotsFollow cx paired good markup slots) (node : Node) (top : Bool)
    (notSelect : tag ≠ "select")
    : Unfolds cx paired good around (slots.openNode cx node tag top)
        (Step.opening markup node tag top) := by
  simp only [Slots.openNode, Step.opening, if_neg notSelect, follow.values]
  apply (Unfolds.write _).andThen
  apply (Unfolds.writeOrFail _).andThen
  split
  · exact .writeRootMarker
  · exact .nothing

/-- Beginning a selection that is compiled inline, and what follows once it is entered. -/
theorem openSelection (follow : SlotsFollow cx paired good markup slots) (node : Node)
    (top : Bool) {rest : Render Unit} {steps : List Step}
    (entered
      : Unfolds cx paired good around
          (do
            pushSelection (FormControl.selectValue (Step.ownProps markup node))
            rest)
          steps)
    : Unfolds cx paired good around
        (do
          slots.openNode cx node "select" top
          rest)
        (Step.opening markup node "select" top ++ steps) := by
  have begins :=
    (Unfolds.writeOpenTag "select" (FormControl.selectProps (Step.ownProps markup node))).andThen
      entered
  simpa only [Slots.openNode, Slots.openSelection, Step.opening, if_true, bind_assoc,
    follow.values, Step.ownProps] using begins

/-- An element that is compiled inline, with something between its tags. -/
theorem renderAround (follow : SlotsFollow cx paired good markup slots) (top : Bool)
    {inner : Render Unit} {steps : List Step}
    (inside
      : Unfolds cx paired good (around.enter tag (Step.ownProps markup node)) inner steps)
    : Unfolds cx paired good around
        (do
          slots.openNode cx node tag top
          write .openEnd
          inner
          endHost tag)
        (Step.opening markup node tag top
          ++ (.write .openEnd :: steps ++ [.write (.closeTag tag)])) := by
  have between {around : Surroundings} (inside : Unfolds cx paired good around inner steps)
      : Unfolds cx paired good around
          (do
            write .openEnd
            inner
            write (.closeTag tag))
          (.write .openEnd :: steps ++ [.write (.closeTag tag)]) :=
    (Unfolds.write _).andThen (inside.andThen (.write _))
  by_cases isSelect : tag = "select"
  · subst isSelect
    simp only [Surroundings.enter, if_true] at inside
    apply follow.openSelection node top
    simpa only [endHost, if_true, bind_assoc] using (between inside).selecting
  · simp only [Surroundings.enter, if_neg isSelect] at inside
    have entered := (follow.openNode node top isSelect).andThen (between inside)
    simpa only [endHost, if_neg isSelect, bind_pure_unit] using entered

/-- A void element that is compiled inline. A void selection is entered and not left. -/
theorem renderVoid (follow : SlotsFollow cx paired good markup slots) (top : Bool)
    (isElement : node.tag = .element tag) (noSelect : paired → tag ≠ "select")
    : Unfolds cx paired good around
        (do
          slots.openNode cx node tag top
          slots.renderGiven cx node
          write .selfClose)
        (Step.opening markup node tag top
          ++ (Step.given (around.enter tag (Step.ownProps markup node)) markup node tag
            ++ [.write .selfClose])) := by
  have content {around : Surroundings}
      : Unfolds cx paired good around
          (do
            slots.renderGiven cx node
            write .selfClose)
          (Step.given around markup node tag ++ [.write .selfClose]) :=
    (follow.renderGiven isElement).andThen (.write .selfClose)
  by_cases isSelect : tag = "select"
  · subst isSelect
    have unpaired : ¬paired := fun holds => noSelect holds rfl
    have agrees : around.Agrees paired (around.enter "select" (Step.ownProps markup node)) :=
      ⟨(Surroundings.context_enter _ _ _).symm, fun holds => absurd holds unpaired⟩
    apply follow.openSelection node top
    exact (Unfolds.enterSelection unpaired _).andThen (content.elsewhere agrees)
  · simp only [Surroundings.enter, if_neg isSelect]
    exact (follow.openNode node top isSelect).andThen content

end SlotsFollow

/-- No selection among some nodes is void if all selections are to be left. -/
def NoneVoid (paired : Prop) (branches : List Branch) : Prop :=
  paired
  → ∀ branch ∈ branches, branch.node.tag = .element "select" → branch.node.isVoid = false

section

variable {markup : Markup} {slots : Slots}

mutual

/-- Rendering a child of a template follows the child, by induction on the child. -/
theorem follows_ofChild (invokes : InvokeFollows cx paired good invoke)
    (follow : SlotsFollow cx paired good markup slots)
    : ∀ child top leadNewline,
        NoneVoid paired child.branches
        → Follows cx paired good (.node markup top leadNewline child)
            (slots.renderNode cx invoke top leadNewline child)
  | .text text, top, leadNewline, _ => by
      simp only [Slots.renderNode]
      exact .of_unfolds fun _ => .writeText text
  | .slot slot, top, leadNewline, _ => by
      simp only [Slots.renderNode, Slots.value, follow.values]
      exact .of_unfolds fun _ => .renderChild _ _ (follow.slot slot).inside
  | .branch node children, top, leadNewline, noneVoid => by
      have inside : NoneVoid paired (Child.branchesOf children) :=
        fun holds branch member => noneVoid holds branch (List.mem_cons_of_mem _ member)
      cases isTag : node.tag with
      | fragment =>
          rw [Slots.renderNode_fragment isTag]
          refine .of_unfolds fun around => ?_
          simp only [stepsOf, Step.branch, isTag]
          exact unfolds_ofChildren invokes follow children top false around inside
      | component name =>
          rw [Slots.renderNode_component isTag]
          refine .of_unfolds fun around => ?_
          simp only [stepsOf, Step.branch, isTag, Slots.callNode, follow.template,
            follow.nodeProps]
          cases markup.template.component? node.id with
          | none => exact .nothing
          | some component =>
              exact (invokes component _ _ (follow.props _) (follow.reference _)).inside
      | element tag =>
          cases isControl : Program.isFormControl tag with
          | true =>
              rw [Slots.renderNode_control isTag isControl]
              intro before reached ready ran
              simp only [stepsOf, Step.branch, isTag, isControl, if_true]
              rw [follow.nodeProps] at ran
              exact renderControl_makes ready ran
          | false =>
              refine .of_unfolds fun around => ?_
              simp only [stepsOf, Step.branch, isTag, isControl, Bool.false_eq_true, if_false,
                Step.inline]
              cases isVoid : node.isVoid with
              | true =>
                  rw [Slots.renderNode_void isTag isControl isVoid, if_pos rfl]
                  refine follow.renderVoid top isTag fun holds isSelect => ?_
                  have notVoid := noneVoid holds ⟨node, children⟩ (List.mem_cons_self ..)
                    (isSelect ▸ isTag)
                  cases isVoid.symm.trans notVoid
              | false =>
                  rw [Slots.renderNode_around isTag isControl isVoid]
                  simp only [Bool.false_eq_true, if_false]
                  apply follow.renderAround top
                  split
                  · exact follow.renderGiven isTag
                  · exact unfolds_ofChildren invokes follow children false _ _ inside

theorem unfolds_ofChildren (invokes : InvokeFollows cx paired good invoke)
    (follow : SlotsFollow cx paired good markup slots)
    : ∀ children top leadNewline around,
        NoneVoid paired (Child.branchesOf children)
        → Unfolds cx paired good around (slots.renderNodes cx invoke top leadNewline children)
            (Step.children around markup top leadNewline children)
  | [], top, leadNewline, around, _ => by
      simp only [Slots.renderNodes]
      exact .nothing
  | first :: rest, top, leadNewline, around, noneVoid => by
      have here := follows_ofChild invokes follow first top leadNewline
        fun holds branch member => noneVoid holds branch (List.mem_append_left _ member)
      have later := unfolds_ofChildren invokes follow rest top leadNewline around
        fun holds branch member => noneVoid holds branch (List.mem_append_right _ member)
      simp only [Slots.renderNodes]
      exact here.inside.andThen later

end

end

-----------------------------------------------------------------------------------------
-- Values
-----------------------------------------------------------------------------------------

/-- Rendering the items of an array, by induction on them. -/
theorem unfolds_items {items : List Value}
    (inside
      : ∀ item ∈ items, Follows cx paired good (.value item) (renderValue cx invoke item))
    : Unfolds cx paired good around (renderItems cx invoke items)
        (items.map fun item => .inside around (.value item)) := by
  induction items with
  | nil =>
      simp only [renderItems]
      exact .nothing
  | cons item rest ih =>
      simp only [renderItems]
      exact (inside item (List.mem_cons_self ..)).inside.andThen
        (ih fun other member => inside other (List.mem_cons_of_mem _ member))

theorem unfolds_optional {found : Option Value}
    (inside
      : ∀ value, found = some value → Follows cx paired good (.value value)
          (renderValue cx invoke value))
    : Unfolds cx paired good around (renderOptional cx invoke found)
        (Step.optional around found) := by
  cases found with
  | none => exact .nothing
  | some value => exact (inside value rfl).inside

/-- Rendering a good value follows the value, by induction on its size. -/
theorem follows_renderValue (trusted : Trusted cx paired good)
    (invokes : InvokeFollows cx paired good invoke) (value : Value) (holds : good value)
    : Follows cx paired good (.value value) (renderValue cx invoke value) := by
  induction value using (measure (sizeOf : Value → Nat)).wf.induction with
  | h value ih =>
      cases value with
      | undefined | null | bool | function | symbol =>
          simp only [renderValue]
          exact .of_unfolds fun _ => .nothing
      | string text =>
          simp only [renderValue]
          exact .of_unfolds fun _ => .renderText text
      | number | object =>
          simp only [renderValue]
          exact .of_unfolds fun _ => .writeText _
      | array items =>
          simp only [renderValue]
          refine .of_unfolds fun _ => unfolds_items fun item member => ?_
          exact ih item (Value.sizeOf_item member) (trusted.closed.array holds item member)
      | element element =>
          have fields := trusted.closed.props holds
          have child (value : Value)
              (isChild : Fields.get? element.props "children" = some value)
              : Follows cx paired good (.value value) (renderValue cx invoke value) :=
            ih value (Value.sizeOf_get? isChild) (Fields.get?_of_forall fields isChild)
          have children (around : Surroundings)
              : Unfolds cx paired good around (renderField cx invoke "children" element.props)
                  (Step.optional around (Fields.get? element.props "children")) := by
            rw [renderField_eq]
            exact unfolds_optional child
          obtain ⟨serial, part, kind, key, reference, props⟩ := element
          cases kind with
          | host tag =>
              simp only [renderValue]
              exact .of_unfolds fun _ => (Follows.host children).inside
          | component component =>
              simp only [renderValue]
              have refers := trusted.closed.reference holds
              exact .of_unfolds fun _ => (invokes component props reference fields refers).inside
          | fragment =>
              simp only [renderValue]
              exact .of_unfolds children
      | markup markup =>
          have values := trusted.closed.slots holds
          have nodeProps :=
            @Value.Closed.templateProps good trusted.closed (Step.slots markup) markup.entry holds
          have slot (slot : Nat)
              : Follows cx paired good (.value (markup.values.getD slot .undefined))
                  (renderItem cx invoke markup.values slot) := by
            rw [renderItem_eq, ← renderValue_getD, ← List.getD_eq_getElem?_getD]
            exact ih _ (Value.sizeOf_getD markup slot) (trusted.closed.getD values slot)
          have field (slot position : Nat)
              : Follows cx paired good (.value (Source.fieldAt position markup.values[slot]?))
                  (renderItemField cx invoke markup.values slot position) := by
            rw [renderItemField_eq]
            refine ih _ (Value.sizeOf_fieldAt markup slot position) ?_
            exact trusted.closed.fieldAt
              (fun found isHere => values found (List.mem_of_getElem? isHere)) position
          obtain ⟨serial, template, values, entry⟩ := markup
          simp only [renderValue]
          refine .of_unfolds fun around => .alike
            (Slots.render_alike (trusted.genuine holds) entry) ?_
          refine unfolds_ofChildren invokes ⟨rfl, rfl, rfl, slot, field, ?_, ?_⟩ _ true false around
            ?_
          · exact fun branch => (nodeProps branch).1
          · exact fun branch => (nodeProps branch).2
          · exact fun isPaired branch member =>
              trusted.selecting isPaired holds branch (template.branches_roots entry member)

-----------------------------------------------------------------------------------------
-- Components
-----------------------------------------------------------------------------------------

/-- Running code and rendering what it yields. -/
theorem unfolds_code (trusted : Trusted cx paired good) {body : Body Value}
    (keeps : body.Keeps good fun _ => True) {next : Value → Render Unit}
    (follows : ∀ value, good value → Follows cx paired good (.value value) (next value))
    : Unfolds cx paired good around (runBody cx body >>= next) [.run around body] := by
  intro before reached ready agrees ran
  obtain ⟨result, store, -, runs, -, ⟨-, read⟩, fine⟩ :=
    (Store.Read.answering trusted.closed.toFormed trusted.binds fun _ => True).run
      (ready.leaves.renders good _)
      (contextValue_forall ready.providers trusted.host.contextDefault) keeps ⟨rfl, ready.read⟩
  have now : runBody cx body before = (result, { before with store }) := by
    simp only [runBody, bind_apply, get_apply, doWork, runs]
  simp only [bind_apply, now] at ran
  cases result with
  | error error => cases (Prod.mk.inj ran).1
  | ok value =>
      have ready' : Ready cx good { before with store } :=
        ⟨read, ready.providers, ready.leaves⟩
      obtain ⟨⟨_, makes⟩, restored⟩ := follows value (fine value rfl) _ reached ready' ran
      refine ⟨⟨_, .run agrees runs (.inside (.refl _) makes .done)⟩, ?_⟩
      exact ⟨restored.read, restored.providers, restored.depth, restored.keeps, restored.selections⟩

/-- Running code that goes on with what other code yields. -/
theorem runBody_bind (body : Body Value) (next : Value → Body Value)
    : runBody cx (body.bind next)
      = (do
          let value ← runBody cx body
          runBody cx (next value)) := by
  funext state
  simp only [runBody, bind_apply, get_apply, doWork, Body.run_bind]
  cases body.run cx.settings cx.inner (contextValue cx.host state.providers) state.store with
  | mk result store => cases result <;> rfl

/-- What a component renders follows the component, by induction on it. -/
theorem follows_renderComponent (trusted : Trusted cx paired good)
    (invokes : InvokeFollows cx paired good invoke) {props : Props} {reference : Option Value}
    (holds : ∀ field ∈ props, good field.2) (refers : ∀ value, reference = some value → good value)
    (component : Component)
    : Follows cx paired good (.component component props reference)
        (renderComponent cx (renderValue cx invoke) props reference component) := by
  have renders := follows_renderValue trusted invokes
  have children (around : Surroundings)
      : Unfolds cx paired good around (renderChildren (renderValue cx invoke) props)
          (Step.optional around (Fields.get? props "children")) := by
    simp only [renderChildren]
    cases isChild : Fields.get? props "children" with
    | none => exact .nothing
    | some value => exact (renders value (Fields.get?_of_forall holds isChild)).inside
  induction component with
  | function code =>
      exact .of_unfolds fun _ =>
        unfolds_code trusted (trusted.host.function code props holds) renders
  | stateful code =>
      refine .of_unfolds fun around => ?_
      have keeps := (trusted.host.construct code props holds).bind fun state isGood =>
        trusted.host.stateful code _ props (trusted.host.willMount code state isGood) holds
      have runs := @unfolds_code _ _ _ around trusted _ keeps _ renders
      simp only [runBody_bind, bind_assoc] at runs
      exact runs
  | forwardRef code =>
      exact .of_unfolds fun _ =>
        unfolds_code trusted (trusted.host.forwardRef code props reference holds refers) renders
  | memo inner ih => exact .of_unfolds fun _ => ih.inside
  | provider context =>
      have value := Fields.getD_of_forall trusted.closed.undefined holds "value"
      exact .of_unfolds fun around => .providing value (children _)
  | consumer context =>
      intro before reached ready ran
      simp only [renderComponent] at ran
      simp only [stepsOf, componentSteps]
      cases isChild : Fields.get? props "children" with
      | none =>
          rw [isChild] at ran
          cases (Prod.mk.inj ran).1
      | some child =>
          rw [isChild] at ran
          cases child with
          | function closure =>
              have provided := contextValue_forall ready.providers trusted.host.contextDefault
              have keeps := trusted.host.call closure
                [contextValue cx.host before.providers context]
                (Fields.get?_of_forall holds isChild) (by simpa using provided context)
              exact unfolds_code trusted keeps renders before reached ready (.refl _) ran
          | _ => cases (Prod.mk.inj ran).1
  | fragment => exact .of_unfolds children
  | «alias» tag => exact .of_unfolds fun _ => (Follows.host children).inside

/-- Running a component follows the component, by induction on how many components may still be
nested.
-/
theorem follows_invoke (trusted : Trusted cx paired good) (remaining : Nat)
    : InvokeFollows cx paired good (Render.invoke cx remaining) := by
  induction remaining with
  | zero =>
      intro component props reference _ _
      simp only [Render.invoke]
      exact .of_unfolds fun _ => .fail _ _
  | succ remaining ih =>
      intro component props reference holds refers
      simp only [Render.invoke]
      exact (follows_renderComponent trusted ih holds refers component).nesting

/-- Rendering a good value follows the value, however many components may be nested. -/
theorem follows_render (trusted : Trusted cx paired good) (remaining : Nat) {value : Value}
    (holds : good value)
    : Follows cx paired good (.value value)
        (renderValue cx (Render.invoke cx remaining) value) :=
  follows_renderValue trusted (follows_invoke trusted remaining) value holds

end Render

end TaggedMarkup
