import TaggedMarkup.Proofs.Likeness.Code
import TaggedMarkup.Proofs.Rendering.Following

/-! Two renders go abreast when they start with values that are alike: they write the same, fail
alike, or one of them is refused for its depth. Templates that stand for each other may be
rendered in ways of their own, and the second render may be nearer to the limit of nesting.
-/

namespace TaggedMarkup

open Stateful

variable {standsFor : Part → Part → Prop}

/-- Two states differ at most in values that are alike and in how deep they are nested. Inside of
an element, the mark of the first element has been dealt with.
-/
structure RenderState.Like (standsFor : Part → Part → Prop) (inside : Prop)
    (state other : RenderState)
    : Prop where
  store : state.store = other.store
  output : state.output = other.output
  rootMarked : state.rootMarked = other.rootMarked
  selections : Value.AllLike standsFor state.selections other.selections
  providers : Fields.Like (Value.Like standsFor) state.providers other.providers
  marked : inside → state.rootMarked = true

namespace Render

/-- How two renders have come out: one has been refused for its depth, both have failed alike, or
both have reached states that are alike.
-/
inductive Outcomes (standsFor : Part → Part → Prop) (inside : Prop)
    : Except Error Unit × RenderState → Except Error Unit × RenderState → Prop
  | limited (limit : Nat) (reached : RenderState) (outcome : Except Error Unit × RenderState)
    : Outcomes standsFor inside (.error (.recursionLimit limit), reached) outcome
  | limited' (limit : Nat) (reached : RenderState) (outcome : Except Error Unit × RenderState)
    : Outcomes standsFor inside outcome (.error (.recursionLimit limit), reached)
  | failed (error : Error) (reached reached' : RenderState)
    : Outcomes standsFor inside (.error error, reached) (.error error, reached')
  | done {reached reached' : RenderState}
    (states : RenderState.Like standsFor inside reached reached')
    : Outcomes standsFor inside (.ok (), reached) (.ok (), reached')

/-- From states that are alike, two moves come out alike. -/
def Abreast (standsFor : Part → Part → Prop) (before after : Prop) (first second : Render Unit)
    : Prop :=
  ∀ state other,
    RenderState.Like standsFor before state other
    → Outcomes standsFor after (first state) (second other)

/-- Two moves are made abreast wherever they are made. -/
abbrev Alongside (standsFor : Part → Part → Prop) (first second : Render Unit) : Prop :=
  ∀ inside, Abreast standsFor inside inside first second

section

variable {before middle after inside : Prop} {first first' second second' : Render Unit}

namespace Abreast

/-- Two moves that succeed from all states. -/
theorem of_ok {change change' : RenderState → RenderState}
    (left : ∀ state, first state = (.ok (), change state))
    (right : ∀ state, first' state = (.ok (), change' state))
    (keeps
      : ∀ state other,
          RenderState.Like standsFor before state other
          → RenderState.Like standsFor after (change state) (change' other))
    : Abreast standsFor before after first first' := by
  intro state other like
  rw [left, right]
  exact .done (keeps state other like)

theorem nothing : Abreast standsFor inside inside (pure ()) (pure ()) :=
  of_ok (fun _ => rfl) (fun _ => rfl) fun _ _ like => like

theorem fail (error : Error) : Abreast standsFor before after (throw error) (throw error) :=
  fun state other _ => .failed error state other

/-- Moves in a row are made abreast when each of them is. -/
theorem andThen (start : Abreast standsFor before middle first first')
    (rest : Abreast standsFor middle after second second')
    : Abreast standsFor before after (first >>= fun _ => second)
        (first' >>= fun _ => second') := by
  intro state other like
  have outcomes := start state other like
  simp only [bind_apply]
  generalize first state = outcome, first' other = outcome' at outcomes ⊢
  cases outcomes with
  | limited limit reached => exact .limited limit reached _
  | limited' limit reached => exact .limited' limit reached _
  | failed error reached reached' => exact .failed error reached reached'
  | done states => exact rest _ _ states

/-- Fewer states may be alike before the moves, and more after them. -/
theorem weaken {before' after' : Prop} (abreast : Abreast standsFor before after first second)
    (narrower : before → before') (wider : after' → after)
    : Abreast standsFor before' after' first second := by
  intro state other like
  have outcomes := abreast state other { like with marked := like.marked ∘ narrower }
  generalize first state = outcome, second other = outcome' at outcomes ⊢
  cases outcomes with
  | limited limit reached => exact .limited limit reached _
  | limited' limit reached => exact .limited' limit reached _
  | failed error reached reached' => exact .failed error reached reached'
  | done states => exact .done { states with marked := states.marked ∘ wider }

/-- The first move may be done in another way. -/
theorem left (alike : EndsAlike first' first)
    (abreast : Abreast standsFor before after first second)
    : Abreast standsFor before after first' second := by
  intro state other like
  have outcomes := abreast state other like
  rcases alike state with same | ⟨error, reached, reached', failed, failed'⟩
  · rwa [same]
  · rw [failed]
    rw [failed'] at outcomes
    generalize second other = outcome at outcomes ⊢
    cases outcomes with
    | limited limit => exact .limited limit reached _
    | limited' limit reached' => exact .limited' limit reached' _
    | failed error _ reached' => exact .failed error reached reached'

/-- The second move may be done in another way. -/
theorem right (alike : EndsAlike second' second)
    (abreast : Abreast standsFor before after first second)
    : Abreast standsFor before after first second' := by
  intro state other like
  have outcomes := abreast state other like
  rcases alike other with same | ⟨error, reached, reached', failed, failed'⟩
  · rwa [same]
  · rw [failed]
    rw [failed'] at outcomes
    generalize first state = outcome at outcomes ⊢
    cases outcomes with
    | limited limit reached' => exact .limited limit reached' _
    | limited' limit => exact .limited' limit reached _
    | failed error reached' => exact .failed error reached' reached

/-- What the moves are may depend on the states that they begin in. -/
theorem read {next next' : RenderState → Render Unit}
    (rest
      : ∀ state other,
          RenderState.Like standsFor before state other
          → Abreast standsFor before after (next state) (next' other))
    : Abreast standsFor before after (get >>= next) (get >>= next') := by
  intro state other like
  simp only [bind_apply, get_apply]
  exact rest state other like state other like

-----------------------------------------------------------------------------------------
-- Writing
-----------------------------------------------------------------------------------------

theorem write (piece : Piece)
    : Abreast standsFor inside inside (Render.write piece) (Render.write piece) :=
  of_ok (write_apply piece) (write_apply piece) fun _ _ like =>
    { like with output := congrArg (·.push piece) like.output }

theorem writeAll (pieces : List Piece)
    : Abreast standsFor inside inside (Render.writeAll pieces) (Render.writeAll pieces) := by
  induction pieces with
  | nil => exact nothing
  | cons piece rest ih => exact (write piece).andThen ih

theorem writeOrFail (pieces : Except Error (List Piece))
    : Abreast standsFor inside inside (Render.writeOrFail pieces)
        (Render.writeOrFail pieces) := by
  cases pieces with
  | error error => exact fail error
  | ok pieces => exact writeAll pieces

/-- What has been written is the same, so a separator is due in both or in none. -/
theorem writeText (options : RenderOptions) (escaped : String)
    : Abreast standsFor inside inside (Render.writeText options escaped)
        (Render.writeText options escaped) :=
  of_ok (writeText_apply options escaped) (writeText_apply options escaped)
    fun _ _ like => { like with output := by simp only [like.output] }

theorem renderText (cx : RenderSettings) (text : String)
    : Abreast standsFor inside inside (Render.renderText cx text)
        (Render.renderText cx text) := by
  simp only [Render.renderText]
  split
  · exact nothing
  · exact writeText _ _

/-- After the mark has been asked for, it has been dealt with. -/
theorem writeRootMarker (options : RenderOptions)
    : Abreast standsFor before after (Render.writeRootMarker options)
        (Render.writeRootMarker options) :=
  of_ok (writeRootMarker_apply options) (writeRootMarker_apply options) fun _ _ like =>
    { like with
      output := by simp only [like.output, like.rootMarked]
      rootMarked := rfl
      marked := fun _ => rfl }

/-- Asking for the mark inside of an element does nothing. -/
theorem noRootMarker (options : RenderOptions)
    : Abreast standsFor True True (pure ()) (Render.writeRootMarker options) :=
  of_ok (fun _ => rfl) (writeRootMarker_apply options) fun state other like =>
    { like with
      output := by
        have marked : other.rootMarked = true := like.rootMarked ▸ like.marked trivial
        simp [marked, like.output]
      rootMarked := like.marked trivial }

theorem pushSelection {value value' : Value} (like : Value.Like standsFor value value')
    : Abreast standsFor inside inside (Render.pushSelection value)
        (Render.pushSelection value') :=
  of_ok (fun _ => rfl) (fun _ => rfl) fun _ _ states =>
    { states with selections := .cons like states.selections }

theorem popSelection : Abreast standsFor inside inside Render.popSelection Render.popSelection :=
  of_ok (fun _ => rfl) (fun _ => rfl) fun _ _ states =>
    { states with
      selections := by simpa only [List.drop_one] using List.forall₂_drop 1 states.selections }

theorem pushProvider (context : String) {value value' : Value}
    (like : Value.Like standsFor value value')
    : Abreast standsFor inside inside (Render.pushProvider context value)
        (Render.pushProvider context value') :=
  of_ok (fun _ => rfl) (fun _ => rfl) fun _ _ states =>
    { states with providers := .cons (.of like) states.providers }

theorem popProvider : Abreast standsFor inside inside Render.popProvider Render.popProvider :=
  of_ok (fun _ => rfl) (fun _ => rfl) fun _ _ states =>
    { states with
      providers := by simpa only [List.drop_one] using List.forall₂_drop 1 states.providers }

/-- Each of the renders may be refused for its own depth. -/
theorem enter (options : RenderOptions)
    : Abreast standsFor inside inside (Render.enter options) (Render.enter options) := by
  intro state other like
  simp only [enter_apply]
  split
  · exact .limited _ _ _
  split
  · exact .limited' _ _ _
  · exact .done { like with }

theorem leave : Abreast standsFor inside inside Render.leave Render.leave :=
  of_ok (fun _ => rfl) (fun _ => rfl) fun _ _ states => { states with }

/-- The second render may be nested deeper. -/
theorem nest (options : RenderOptions) (abreast : Abreast standsFor before after first second)
    : Abreast standsFor before after first
        (do
          Render.enter options
          second
          Render.leave) := by
  intro state other like
  by_cases full : options.maxDepth ≤ other.depth
  · simp only [bind_apply, enter_apply, if_pos full]
    exact .limited' _ _ _
  have outcomes := abreast state other.deeper { like with }
  simp only [bind_apply, enter_apply, if_neg full]
  generalize first state = outcome, second other.deeper = outcome'
    at outcomes ⊢
  cases outcomes with
  | limited limit reached => exact .limited limit reached _
  | limited' limit reached => exact .limited' limit reached _
  | failed error reached reached' => exact .failed error reached reached'
  | done states => exact .done { states with }

-----------------------------------------------------------------------------------------
-- Elements
-----------------------------------------------------------------------------------------

variable {cx : RenderSettings} {props props' : Props} {children children' : Render Unit}

/-- After the beginning of an element, the mark has been dealt with. -/
theorem writeOpenTag (tag : String) (alike : Fields.Like (Value.Like standsFor) props props')
    : Abreast standsFor before after (Render.writeOpenTag cx tag props)
        (Render.writeOpenTag cx tag props') := by
  simp only [Render.writeOpenTag, alike.contains, WrittenAttribute.ofProps_like alike]
  exact (write _).andThen ((writeOrFail _).andThen (writeRootMarker _))

theorem endHost (tag : String)
    : Abreast standsFor inside inside (Render.endHost tag) (Render.endHost tag) := by
  refine (write _).andThen ?_
  split
  · exact popSelection
  · exact nothing

/-- Rendering a child with a line feed before it where the first is lost. -/
theorem renderChild (leadNewline : Bool) {value value' : Value}
    (like : Value.Like standsFor value value')
    (rest : Abreast standsFor inside inside children children')
    : Abreast standsFor inside inside (Render.renderChild leadNewline value children)
        (Render.renderChild leadNewline value' children') := by
  simp only [Render.renderChild, like.string?]
  split
  · exact (write _).andThen rest
  · exact rest

theorem renderContent (tag : String) {content content' : Content}
    (like : Content.Like standsFor (.ok content) (.ok content'))
    (rest : Abreast standsFor inside inside children children')
    : Abreast standsFor inside inside (Render.renderContent tag content children)
        (Render.renderContent tag content' children') := by
  cases like with
  | nothing => exact nothing
  | children like => exact renderChild _ like rest
  | innerHtml markup =>
      simp only [Render.renderContent]
      split
      · exact (write _).andThen (write _)
      · exact write _

theorem renderElement (tag : String) (alike : Fields.Like (Value.Like standsFor) props props')
    (rest : Abreast standsFor inside inside children children')
    : Abreast standsFor inside inside (Render.renderElement cx tag props children)
        (Render.renderElement cx tag props' children') := by
  have contents := Content.ofProps_like alike
  have begins
      : Abreast standsFor inside inside (Render.writeOpenTag cx tag props)
          (Render.writeOpenTag cx tag props') :=
    writeOpenTag tag alike
  simp only [Render.renderElement, hasContent_like alike]
  cases refused : Html.isVoid tag && hasContent props' with
  | true => exact fun state other _ => .failed (.voidElementChildren tag) state other
  | false =>
      simp only [Bool.false_eq_true, if_false]
      generalize Content.ofProps props = content, Content.ofProps props' = content' at contents ⊢
      cases contents with
      | error error => exact fail error
      | nothing | children | innerHtml =>
          refine begins.andThen ?_
          cases Html.isVoid tag with
          | true => exact write _
          | false =>
              refine (write _).andThen (.andThen (renderContent tag ?_ rest) (write _))
              first | exact .nothing | exact .innerHtml _ | exact .children ‹_›

theorem renderControl (tag : String) (alike : Fields.Like (Value.Like standsFor) props props')
    : Abreast standsFor inside inside (Render.renderControl cx tag props)
        (Render.renderControl cx tag props') := by
  simp only [Render.renderControl]
  split
  · exact renderElement tag (FormControl.inputProps_like alike) nothing
  split
  · rw [FormControl.textareaText_like alike]
    exact renderElement tag (FormControl.textareaProps_like alike) (renderText cx _)
  · rw [FormControl.optionText_like alike]
    refine read fun state other like => ?_
    refine renderElement tag (FormControl.optionProps_like ?_ alike) (renderText cx _)
    simpa only [List.head?_eq_getElem?] using like.selections.getElem? 0

theorem renderHost (tag : String) (alike : Fields.Like (Value.Like standsFor) props props')
    (rest : Abreast standsFor inside inside children children')
    : Abreast standsFor inside inside (Render.renderHost cx tag props children)
        (Render.renderHost cx tag props' children') := by
  simp only [Render.renderHost]
  split
  · exact renderControl tag alike
  split
  · refine renderElement tag (FormControl.selectProps_like alike) ?_
    exact (pushSelection (FormControl.selectValue_like alike)).andThen (rest.andThen popSelection)
  · exact renderElement tag alike rest

end Abreast

end

-----------------------------------------------------------------------------------------
-- Templates
-----------------------------------------------------------------------------------------

/-- Two bound templates with values that are alike and are rendered alongside. -/
structure SlotsLike (standsFor : Part → Part → Prop) (slots slots' : Slots) : Prop where
  serial : slots.serial = slots'.serial
  values : Value.AllLike standsFor slots.values slots'.values
  slot : ∀ slot, Alongside standsFor (slots.renderSlot slot) (slots'.renderSlot slot)
  field
    : ∀ slot position,
        Alongside standsFor (slots.renderField slot position) (slots'.renderField slot position)

/-- Components are run alongside with properties that are alike. -/
def InvokeLike (standsFor : Part → Part → Prop) (invoke invoke' : Invoke) : Prop :=
  ∀ component {props props' reference reference'},
    Fields.Like (Value.Like standsFor) props props'
    → Option.Rel (Value.Like standsFor) reference reference'
    → Alongside standsFor (invoke component props reference) (invoke' component props' reference')

namespace SlotsLike

variable {slots slots' : Slots} {cx : RenderSettings} {invoke invoke' : Invoke} {inside : Prop}

theorem value (alike : SlotsLike standsFor slots slots') (slot : Nat)
    : Value.Like standsFor (slots.value slot) (slots'.value slot) :=
  alike.values.getD slot

/-- The properties of a node between whose tags the children are alike. -/
theorem nodeProps (alike : SlotsLike standsFor slots slots') (node : Node)
    {children children' : List Child}
    (nested
      : Value.AllLike standsFor (children.map slots.childValue)
          (children'.map slots'.childValue))
    : Option.Rel (Value.Like standsFor) (slots.nodeProps ⟨node, children⟩).1.reference
          (slots'.nodeProps ⟨node, children'⟩).1.reference
      ∧ Fields.Like (Value.Like standsFor) (slots.nodeProps ⟨node, children⟩).2
          (slots'.nodeProps ⟨node, children'⟩).2 := by
  obtain ⟨-, reference, props⟩ := splitIdentity_like (node.props_like alike.values)
  refine ⟨reference, ?_⟩
  have same : children.isEmpty = children'.isEmpty := by
    have lengths := nested.length_eq
    simp only [List.length_map] at lengths
    rw [Bool.eq_iff_iff, List.isEmpty_iff_length_eq_zero, List.isEmpty_iff_length_eq_zero, lengths]
  simp only [Slots.nodeProps, same]
  split
  · exact props
  · exact props.insert _ (.ofChildren nested)

theorem renderSource (alike : SlotsLike standsFor slots slots') (source : Source)
    : Abreast standsFor inside inside (slots.renderSource cx source)
        (slots'.renderSource cx source) := by
  cases source with
  | literal text => exact .renderText cx text
  | bare => exact .nothing
  | slot index => exact alike.slot index inside
  | field index position => exact alike.field index position inside

theorem renderContent (alike : SlotsLike standsFor slots slots') (node : Node)
    : Abreast standsFor inside inside (slots.renderContent cx node)
        (slots'.renderContent cx node) := by
  have contents := Content.ofProps_like (node.props_like alike.values)
  simp only [Slots.renderContent, node.sources_like alike.values]
  generalize Content.ofProps (node.props slots.values) = content,
    Content.ofProps (node.props slots'.values) = content' at contents ⊢
  cases contents with
  | error error => exact .fail error
  | nothing => exact .nothing
  | children | innerHtml =>
      cases node.isVoid with
      | true => exact .fail _
      | false =>
          simp only [Bool.false_eq_true, if_false]
          refine .renderContent _ ?_ ?_
          · first | exact .innerHtml _ | exact .children ‹_›
          · cases Fields.get? (node.sources slots'.values) "children" with
            | none => exact .nothing
            | some source => exact alike.renderSource source

/-- After the beginning of a selection, the mark has been dealt with. -/
theorem openSelection (alike : SlotsLike standsFor slots slots') (node : Node)
    {before after : Prop}
    : Abreast standsFor before after (slots.openSelection cx node)
        (slots'.openSelection cx node) := by
  obtain ⟨-, -, merged⟩ := splitIdentity_like (node.props_like alike.values)
  have begins
      : Abreast standsFor before after
          (Render.writeOpenTag cx "select"
            (FormControl.selectProps (splitIdentity (node.props slots.values)).2))
          (Render.writeOpenTag cx "select"
            (FormControl.selectProps (splitIdentity (node.props slots'.values)).2)) :=
    .writeOpenTag "select" (FormControl.selectProps_like merged)
  exact begins.andThen (.pushSelection (FormControl.selectValue_like merged))

/-- Making a call that concerns a node of one template. -/
theorem callNode (alike : SlotsLike standsFor slots slots')
    (invokes : InvokeLike standsFor invoke invoke') {node : Node} {children children' : List Child}
    (nested
      : Value.AllLike standsFor (children.map slots.childValue)
          (children'.map slots'.childValue))
    {call : Call}
    (component
      : ∀ id, call = .component id → slots.template.component? id = slots'.template.component? id)
    : Abreast standsFor inside inside (slots.callNode cx invoke ⟨node, children⟩ call)
        (slots'.callNode cx invoke' ⟨node, children'⟩ call) := by
  obtain ⟨reference, props⟩ := alike.nodeProps node nested
  cases call with
  | component id =>
      simp only [Slots.callNode, component id rfl]
      cases slots'.template.component? id with
      | none => exact .nothing
      | some component => exact invokes component props reference inside
  | host id =>
      simp only [Slots.callNode]
      cases node.elementName? with
      | none => exact .nothing
      | some tag => exact .renderControl tag props
  | content id => exact alike.renderContent node
  | selectOpen id => exact alike.openSelection node
  | spread id entry =>
      simp only [Slots.callNode,
        WrittenAttribute.ofProps_like (node.spreadSurvivors_like alike.values entry)]
      exact .writeOrFail _
  | dynamicName id entry =>
      simp only [Slots.callNode, Slots.writeProp, dynamicName?_like alike.values,
        Node.isOverridden_like alike.values]
      split
      next place location found =>
          cases slots'.values[place]?.bind dynamicName? with
          | none => exact .nothing
          | some name =>
              dsimp only
              split
              · exact .nothing
              · exact .writeOrFail _
      next => exact .nothing
  | «attribute» id entry =>
      simp only [Slots.callNode, Slots.writeProp, Node.isOverridden_like alike.values]
      split
      next name value location found =>
          split
          · exact .nothing
          · have written
                : Fields.Like (Value.Like standsFor) [(name, value.source.value slots.values)]
                    [(name, value.source.value slots'.values)] :=
              .cons (.of (value.source.value_like alike.values)) .nil
            simp only [WrittenAttribute.ofProps_like written]
            exact .writeOrFail _
      next => exact .nothing
  | text | value | style | rootMarker | child | selectClose => exact .nothing

/-- The children of a node of one template are alike as values. -/
theorem childValues (alike : SlotsLike standsFor slots slots')
    (parts : ∀ id, standsFor (slots.template, some id) (slots'.template, some id))
    (children : List Child)
    : Value.AllLike standsFor (children.map slots.childValue) (children.map slots'.childValue) := by
  simp only [List.forall₂_map_left_iff, List.forall₂_map_right_iff, List.forall₂_same]
  intro child _
  cases child with
  | text text => exact .string text
  | slot slot => exact alike.value slot
  | branch node => 
      simp only [Slots.childValue, alike.serial]
      exact .markup (parts node.id) alike.values

/-- Making a call of one template. -/
theorem runCall (alike : SlotsLike standsFor slots slots')
    (invokes : InvokeLike standsFor invoke invoke') (same : slots.template = slots'.template)
    (parts : ∀ part, standsFor part part) (call : Call)
    : Abreast standsFor inside inside (slots.runCall cx invoke call)
        (slots'.runCall cx invoke' call) := by
  have node (id : Nat)
      : Abreast standsFor inside inside (slots.callNodeById cx invoke id call)
          (slots'.callNodeById cx invoke' id call) := by
    simp only [Slots.callNodeById, same]
    split
    next branch found =>
        have nested := alike.childValues (fun id => same ▸ parts _) branch.children
        exact alike.callNode invokes nested fun id _ => by rw [same]
    next => exact .nothing
  cases call with
  | text escaped => exact .writeText _ _
  | value slot name custom =>
      simp only [Slots.runCall, WrittenAttribute.ofProperty?_like (alike.value slot)]
      exact .writeAll _
  | style slot =>
      simp only [Slots.runCall, WrittenAttribute.ofStyle?_like (alike.value slot)]
      exact .writeOrFail _
  | rootMarker => exact .writeRootMarker _
  | child slot leadNewline =>
      exact .renderChild leadNewline (alike.value slot) (alike.slot slot inside)
  | selectClose => exact .popSelection
  | dynamicName id | «attribute» id | spread id | content id | component id | host id
  | selectOpen id => exact node id

/-- Running a program of one template, by induction on its steps. -/
theorem runProgram (alike : SlotsLike standsFor slots slots')
    (invokes : InvokeLike standsFor invoke invoke') (same : slots.template = slots'.template)
    (parts : ∀ part, standsFor part part) (program : Program)
    : Abreast standsFor inside inside (slots.runProgram cx invoke program)
        (slots'.runProgram cx invoke' program) := by
  induction program with
  | nil => exact .nothing
  | cons instruction rest ih =>
      cases instruction with
      | write piece => exact (Abreast.write piece).andThen ih
      | call call => exact (alike.runCall invokes same parts call).andThen ih

/-- Running one template, or one node in it. -/
theorem render (alike : SlotsLike standsFor slots slots')
    (invokes : InvokeLike standsFor invoke invoke') (same : slots.template = slots'.template)
    (parts : ∀ part, standsFor part part) (entry : Option Nat)
    : Alongside standsFor (slots.render cx invoke entry) (slots'.render cx invoke' entry) := by
  intro inside
  simp only [Slots.render, same]
  split
  · exact alike.runProgram invokes same parts _
  · exact .nothing

end SlotsLike

-----------------------------------------------------------------------------------------
-- Values
-----------------------------------------------------------------------------------------

section

variable {cx : RenderSettings} {remaining : Nat} {inside : Prop}

/-- Templates that stand for each other are rendered alongside as long as their values and their
components are, however many components may be nested in the second render.
-/
def Interchangeable (cx : RenderSettings) (standsFor : Part → Part → Prop) : Prop :=
  ∀ remaining {markup markup' : Markup},
    standsFor (markup.template, markup.entry) (markup'.template, markup'.entry)
    → (∀ limit, InvokeLike standsFor (invoke cx remaining) (invoke cx limit))
    → (∀ limit,
        SlotsLike standsFor (Slots.bound cx (invoke cx remaining) markup)
          (Slots.bound cx (invoke cx limit) markup'))
    → ∀ limit,
        Alongside standsFor
          ((Slots.bound cx (invoke cx remaining) markup).render cx (invoke cx remaining)
            markup.entry)
          ((Slots.bound cx (invoke cx limit) markup').render cx (invoke cx limit) markup'.entry)

/-- Rendering items in order, by induction on them. -/
theorem renderItems_like {run run' : Invoke} {items items' : List Value}
    (alike : Value.AllLike standsFor items items')
    (renders
      : ∀ item ∈ items,
          ∀ item',
            Value.Like standsFor item item'
            → Abreast standsFor inside inside (renderValue cx run item) (renderValue cx run' item'))
    : Abreast standsFor inside inside (renderItems cx run items) (renderItems cx run' items') := by
  induction alike with
  | nil =>
      simp only [renderItems]
      exact .nothing
  | cons first _ ih =>
      simp only [renderItems]
      refine (renders _ (List.mem_cons_self ..) _ first).andThen (ih fun item member => ?_)
      exact renders item (List.mem_cons_of_mem _ member)

/-- Values that are alike are rendered alongside, by induction on their size. -/
theorem renderValue_like (parts : Interchangeable cx standsFor)
    (invokes : ∀ limit, InvokeLike standsFor (invoke cx remaining) (invoke cx limit))
    {value value' : Value} (like : Value.Like standsFor value value') (limit : Nat)
    : Alongside standsFor (renderValue cx (invoke cx remaining) value)
        (renderValue cx (invoke cx limit) value') := by
  induction value using (measure (sizeOf : Value → Nat)).wf.induction generalizing value' limit with
  | h value ih =>
      intro inside
      cases like with
      | undefined | null | bool | symbol | function =>
          simp only [renderValue]
          exact .nothing
      | string text =>
          simp only [renderValue]
          exact .renderText cx text
      | number value =>
          simp only [renderValue]
          exact .writeText _ _
      | object fields =>
          simp only [renderValue, (Value.Like.object fields).text]
          exact .writeText _ _
      | array items =>
          simp only [renderValue]
          exact renderItems_like items fun item member item' like =>
            ih item (Value.sizeOf_item member) like limit inside
      | @element serial part kind key reference reference' props props' references fields =>
          have children
              : Abreast standsFor inside inside
                  (renderField cx (invoke cx remaining) "children" props)
                  (renderField cx (invoke cx limit) "children" props') := by
            have found := Fields.Like.get? fields "children"
            have smaller (child : Value) (isChild : Fields.get? props "children" = some child) :=
              @Value.sizeOf_get? child ⟨serial, part, kind, key, reference, props⟩ _ isChild
            simp only [renderField_eq]
            generalize Fields.get? props "children" = child,
              Fields.get? props' "children" = child' at found smaller ⊢
            cases found with
            | none => exact .nothing
            | some like => exact ih _ (smaller _ rfl) like limit inside
          cases kind with
          | host tag =>
              simp only [renderValue]
              exact .renderHost tag fields children
          | component component =>
              simp only [renderValue]
              exact invokes limit component fields references inside
          | fragment =>
              simp only [renderValue]
              exact children
      | @markup serial form form' entry entry' values values' stands given =>
          let markup : Markup := ⟨serial, form, values, entry⟩
          have slots (limit : Nat)
              : SlotsLike standsFor (Slots.bound cx (invoke cx remaining) markup)
                  (Slots.bound cx (invoke cx limit) ⟨serial, form', values', entry'⟩) := by
            refine ⟨rfl, given, fun slot inside => ?_, fun slot position inside => ?_⟩
            · simp only [Slots.bound, renderItem_eq, ← renderValue_getD,
                ← List.getD_eq_getElem?_getD]
              exact ih _ (Value.sizeOf_getD markup slot) (Value.AllLike.getD given slot)
                limit inside
            · simp only [Slots.bound, renderItemField_eq]
              exact ih _ (Value.sizeOf_fieldAt markup slot position)
                ((Source.field slot position).value_like given) limit inside
          simp only [Slots.renderValue_markup]
          exact parts remaining stands invokes slots limit inside

-----------------------------------------------------------------------------------------
-- Components
-----------------------------------------------------------------------------------------

theorem contextValue_like (same : ∀ part, standsFor part part) {providers providers' : Props}
    (provided : Fields.Like (Value.Like standsFor) providers providers') (context : String)
    : Value.Like standsFor (contextValue cx.host providers context)
        (contextValue cx.host providers' context) := by
  simp only [contextValue]
  induction provided with
  | nil => exact .refl same _
  | cons first _ ih =>
      cases first with
      | @of name _ _ like =>
          simp only [List.lookup_cons]
          split
          · exact like
          · exact ih

/-- Running code that does alike and rendering what it yields. -/
theorem runBody_like (same : ∀ part, standsFor part part) {body body' : Body Value}
    (bodies : Body.Like standsFor (Value.Like standsFor) body body')
    {next next' : Value → Render Unit}
    (rest
      : ∀ value value',
          Value.Like standsFor value value'
          → Abreast standsFor inside inside (next value) (next' value'))
    : Abreast standsFor inside inside (runBody cx body >>= next) (runBody cx body' >>= next') := by
  intro state other like
  have around := @contextValue_like _ cx same _ _ like.providers
  obtain ⟨stores, outcomes⟩ := bodies.run cx.settings cx.inner same around other.store
  simp only [bind_apply, runBody, get_apply, doWork, like.store]
  generalize body.run cx.settings cx.inner _ other.store = reached,
    body'.run cx.settings cx.inner _ other.store = reached' at stores outcomes ⊢
  obtain ⟨outcome, left⟩ := reached
  obtain ⟨outcome', right⟩ := reached'
  cases outcomes with
  | error error => exact .failed error _ _
  | ok yields => exact rest _ _ yields _ _ { like with store := stores }

/-- What a component renders with properties that are alike, by induction on it. -/
theorem renderComponent_like (same : ∀ part, standsFor part part)
    (host : cx.host.Respects standsFor) {render render' : Value → Render Unit}
    (renders
      : ∀ {value value'},
          Value.Like standsFor value value' → Alongside standsFor (render value) (render' value'))
    (component : Component) {props props' : Props} {reference reference' : Option Value}
    (alike : Fields.Like (Value.Like standsFor) props props')
    (references : Option.Rel (Value.Like standsFor) reference reference')
    : Abreast standsFor inside inside (renderComponent cx render props reference component)
        (renderComponent cx render' props' reference' component) := by
  have given := alike.get? "children"
  have children
      : Abreast standsFor inside inside (renderChildren render props)
          (renderChildren render' props') := by
    simp only [renderChildren]
    generalize Fields.get? props "children" = child, Fields.get? props' "children" = child'
      at given ⊢
    cases given with
    | none => exact .nothing
    | some like => exact renders like inside
  have yields (value value' : Value) (like : Value.Like standsFor value value')
      : Abreast standsFor inside inside (render value) (render' value') :=
    renders like inside
  induction component with
  | function code => exact runBody_like same (host.function code alike) yields
  | stateful code =>
      refine runBody_like same (host.construct code alike) fun state state' like => ?_
      exact runBody_like same (host.stateful code (host.willMount code like) alike) yields
  | forwardRef code => exact runBody_like same (host.forwardRef code alike references) yields
  | memo inner ih => exact ih
  | provider context =>
      refine (Abreast.pushProvider context (.getD (alike.get? "value"))).andThen ?_
      exact children.andThen .popProvider
  | consumer context =>
      simp only [renderComponent]
      generalize Fields.get? props "children" = child, Fields.get? props' "children" = child'
        at given ⊢
      cases given with
      | none => exact .fail _
      | some like =>
          cases like with
          | function fields reference state =>
              refine .read fun before other like => ?_
              have provided := @contextValue_like _ cx same _ _ like.providers context
              refine runBody_like same (host.call ?_ (.cons provided .nil)) yields
              exact .function fields reference state
          | _ => exact .fail _
  | fragment => exact children
  | «alias» tag => exact .renderHost tag alike children

/-- Components are run alongside, by induction on how many may still be nested in the first
render.
-/
theorem invoke_like (same : ∀ part, standsFor part part) (host : cx.host.Respects standsFor)
    (parts : Interchangeable cx standsFor) (remaining limit : Nat)
    : InvokeLike standsFor (invoke cx remaining) (invoke cx limit) := by
  induction remaining generalizing limit with
  | zero =>
      intro component props props' reference reference' _ _ inside state other _
      exact .limited cx.options.maxDepth state _
  | succ remaining ih =>
      intro component props props' reference reference' alike references inside
      cases limit with
      | zero => exact fun state other _ => .limited' cx.options.maxDepth other _
      | succ limit =>
          simp only [invoke]
          refine (Abreast.enter cx.options).andThen (.andThen ?_ .leave)
          exact renderComponent_like same host (fun like => renderValue_like parts ih like limit)
            component alike references

/-- Values that are alike are rendered alongside, whatever the depth of the renders. -/
theorem render_like (same : ∀ part, standsFor part part) (host : cx.host.Respects standsFor)
    (parts : Interchangeable cx standsFor) {value value' : Value}
    (like : Value.Like standsFor value value')
    : Alongside standsFor (renderRoot cx value) (renderRoot cx value') :=
  renderValue_like parts (invoke_like same host parts _) like _

end

end Render

end TaggedMarkup
