import TaggedMarkup.Proofs.Rendering.Pairing
import TaggedMarkup.Proofs.Rendering.Primitives
import TaggedMarkup.Proofs.Requests

/-! A render looks at the store through the requests of component code only. From two stores
that answer these requests alike it therefore writes the same output and ends alike. What code is
told of contexts is trusted as long as what is provided is.
-/

namespace TaggedMarkup

/-- A property holds of all values that are provided around a place. -/
def RenderState.Provides (state : RenderState) (trusted : Value → Prop) : Prop :=
  ∀ provider ∈ state.providers, trusted provider.2

theorem RenderState.provides_true (state : RenderState) : state.Provides fun _ => True :=
  fun _ _ => trivial

namespace Render

open Stateful

/-- Two moves make the same change of everything but the store and yield the same result, of
which a property holds, from every state and every store that is related to its own. Neither
forgets that an element has been written, and what is provided stays trusted.
-/
def Lockstep {α : Type} (trusted : Value → Prop) (related : Store → Store → Prop)
    (good : α → Prop) (first second : Render α)
    : Prop :=
  ∀ state store,
    related state.store store
    → state.Provides trusted
    → ∃ result reached store',
        first state = (result, reached)
        ∧ second { state with store } = (result, { reached with store := store' })
        ∧ related reached.store store'
        ∧ reached.Provides trusted
        ∧ (state.rootMarked = true → reached.rootMarked = true)
        ∧ ∀ value, result = .ok value → good value

abbrev Together (trusted : Value → Prop) (related : Store → Store → Prop)
    (first second : Render Unit)
    : Prop :=
  Lockstep trusted related (fun _ => True) first second

namespace Lockstep

variable {α β : Type} {trusted : Value → Prop} {related : Store → Store → Prop}
  {good : α → Prop}

-----------------------------------------------------------------------------------------
-- Single moves
-----------------------------------------------------------------------------------------

theorem done {value : α} (holds : good value)
    : Lockstep trusted related good (pure value) (pure value) :=
  fun state store kept provides =>
    ⟨.ok value, state, store, rfl, rfl, kept, provides, id,
      fun _ same => Except.ok.inj same ▸ holds⟩

theorem fail (error : Error)
    : Lockstep trusted related good (throw error) (throw error) :=
  fun state store kept provides =>
    ⟨.error error, state, store, rfl, rfl, kept, provides, id, by simp⟩

/-- A change of the state that neither looks at the store nor touches it or the marker, and that
provides nothing new that is not trusted.
-/
theorem change {change : RenderState → RenderState}
    (apart : ∀ state store, change { state with store } = { change state with store })
    (rootMarked : ∀ state, (change state).rootMarked = state.rootMarked)
    (provides : ∀ state, state.Provides trusted → (change state).Provides trusted)
    : Together trusted related (modify change) (modify change) := by
  intro state store kept provided
  have same : (change state).store = state.store := by
    have := congrArg RenderState.store (apart state state.store)
    simpa using this
  refine
    ⟨.ok (), change state, store, rfl, ?_, same ▸ kept, provides state provided, ?_, by simp⟩
  · rw [modify_apply, apart]
  · exact (rootMarked state).trans

theorem leave : Together trusted related Render.leave Render.leave :=
  change (fun _ _ => rfl) (fun _ => rfl) fun _ provided => provided

/-- What follows the reading of a state may depend on everything in it but the store. -/
theorem read {next next' : RenderState → Render α}
    (apart : ∀ state store, next' { state with store } = next' state)
    (rest
      : ∀ state,
          state.Provides trusted → Lockstep trusted related good (next state) (next' state))
    : Lockstep trusted related good (get >>= next) (get >>= next') := by
  intro state store kept provided
  simpa only [bind_apply, get_apply, apart] using rest state provided state store kept provided

theorem enter (options : RenderOptions)
    : Together trusted related (Render.enter options) (Render.enter options) := by
  apply read (fun _ _ => rfl)
  intro state _
  split
  · exact fail _
  · exact change (fun _ _ => rfl) (fun _ => rfl) fun _ provided => provided

/-- A move goes on together when what follows it does. -/
theorem bind {holds : β → Prop} {first second : Render α} {next next' : α → Render β}
    (start : Lockstep trusted related good first second)
    (rest : ∀ value, good value → Lockstep trusted related holds (next value) (next' value))
    : Lockstep trusted related holds (first >>= next) (second >>= next') := by
  intro state store kept provided
  obtain ⟨result, reached, store', left, right, kept, provided, marked, fine⟩ :=
    start state store kept provided
  simp only [bind_apply, left, right]
  cases result with
  | error error =>
      exact ⟨.error error, reached, store', rfl, rfl, kept, provided, marked, by simp⟩
  | ok value =>
      obtain ⟨result, last, store'', left', right', kept', provided', marked', fine'⟩ :=
        rest value (fine value rfl) reached store' kept provided
      exact ⟨result, last, store'', left', right', kept', provided', marked' ∘ marked, fine'⟩

theorem andThen {first second : Render Unit} {next next' : Render β} {holds : β → Prop}
    (start : Together trusted related first second)
    (rest : Lockstep trusted related holds next next')
    : Lockstep trusted related holds (first >>= fun _ => next) (second >>= fun _ => next') :=
  start.bind fun _ _ => rest

-----------------------------------------------------------------------------------------
-- Writing
-----------------------------------------------------------------------------------------

theorem write (piece : Piece)
    : Together trusted related (Render.write piece) (Render.write piece) :=
  change (fun _ _ => rfl) (fun _ => rfl) fun _ provided => provided

/-- Writing several pieces, by induction on them. -/
theorem writeAll (pieces : List Piece)
    : Together trusted related (Render.writeAll pieces) (Render.writeAll pieces) := by
  induction pieces with
  | nil => exact done trivial
  | cons piece rest ih => exact (write piece).andThen ih

theorem writeOrFail (pieces : Except Error (List Piece))
    : Together trusted related (Render.writeOrFail pieces) (Render.writeOrFail pieces) := by
  cases pieces with
  | error error => exact fail error
  | ok pieces => exact writeAll pieces

theorem writeText (options : RenderOptions) (escaped : String)
    : Together trusted related (Render.writeText options escaped)
        (Render.writeText options escaped) := by
  apply read (fun _ _ => rfl)
  intro state _
  split
  · exact (write .separator).andThen (write _)
  · exact write _

theorem renderText (cx : RenderSettings) (text : String)
    : Together trusted related (Render.renderText cx text) (Render.renderText cx text) := by
  simp only [Render.renderText]
  split
  · exact done trivial
  · exact writeText _ _

theorem writeRootMarker (options : RenderOptions)
    : Together trusted related (Render.writeRootMarker options)
        (Render.writeRootMarker options) := by
  intro state store kept provided
  exact ⟨.ok (), _, store, writeRootMarker_apply options state, writeRootMarker_apply options _,
    kept, provided, fun _ => rfl, by simp⟩

theorem pushSelection (value : Value)
    : Together trusted related (Render.pushSelection value) (Render.pushSelection value) :=
  change (fun _ _ => rfl) (fun _ => rfl) fun _ provided => provided

theorem popSelection : Together trusted related Render.popSelection Render.popSelection :=
  change (fun _ _ => rfl) (fun _ => rfl) fun _ provided => provided

theorem pushProvider {context : String} {value : Value} (holds : trusted value)
    : Together trusted related (Render.pushProvider context value)
        (Render.pushProvider context value) :=
  change (fun _ _ => rfl) (fun _ => rfl) fun _ provided =>
    List.forall_mem_cons.mpr ⟨holds, provided⟩

theorem popProvider : Together trusted related Render.popProvider Render.popProvider :=
  change (fun _ _ => rfl) (fun _ => rfl) fun _ provided provider member =>
    provided provider (List.mem_of_mem_tail member)

theorem writeOpenTag (cx : RenderSettings) (tag : String) (props : Props)
    : Together trusted related (Render.writeOpenTag cx tag props)
        (Render.writeOpenTag cx tag props) :=
  (write _).andThen ((writeOrFail _).andThen (writeRootMarker _))

-----------------------------------------------------------------------------------------
-- Elements
-----------------------------------------------------------------------------------------

/-- Rendering a child with a line feed before it where the first is lost. -/
theorem renderChild (leadNewline : Bool) (value : Value) {children children' : Render Unit}
    (inside : Together trusted related children children')
    : Together trusted related (Render.renderChild leadNewline value children)
        (Render.renderChild leadNewline value children') := by
  simp only [Render.renderChild]
  split
  · exact (write _).andThen inside
  · exact inside

theorem renderContent (tag : String) (content : Content) {children children' : Render Unit}
    (inside : Together trusted related children children')
    : Together trusted related (Render.renderContent tag content children)
        (Render.renderContent tag content children') := by
  cases content with
  | nothing => exact done trivial
  | children value => exact renderChild _ value inside
  | innerHtml markup =>
      simp only [Render.renderContent]
      split
      · exact (write _).andThen (write _)
      · exact write _

/-- Rendering an element with its properties as they are. -/
theorem renderElement (cx : RenderSettings) (tag : String) (props : Props)
    {children children' : Render Unit} (inside : Together trusted related children children')
    : Together trusted related (Render.renderElement cx tag props children)
        (Render.renderElement cx tag props children') := by
  simp only [Render.renderElement]
  split
  · exact fail _
  split
  · exact fail _
  · apply (writeOpenTag cx tag props).andThen
    split
    · exact write _
    · exact (write _).andThen ((renderContent tag _ inside).andThen (write _))

theorem renderControl (cx : RenderSettings) (tag : String) (props : Props)
    : Together trusted related (Render.renderControl cx tag props)
        (Render.renderControl cx tag props) := by
  simp only [Render.renderControl]
  split
  · exact renderElement cx tag _ (done trivial)
  split
  · exact renderElement cx tag _ (renderText cx _)
  · exact read (fun _ _ => rfl) fun state _ => renderElement cx tag _ (renderText cx _)

theorem renderHost (cx : RenderSettings) (tag : String) (props : Props)
    {children children' : Render Unit} (inside : Together trusted related children children')
    : Together trusted related (Render.renderHost cx tag props children)
        (Render.renderHost cx tag props children') := by
  simp only [Render.renderHost]
  split
  · exact renderControl cx tag props
  split
  · apply renderElement cx tag _
    exact (pushSelection _).andThen (inside.andThen popSelection)
  · exact renderElement cx tag props inside

-----------------------------------------------------------------------------------------
-- Templates
-----------------------------------------------------------------------------------------

variable {cx : RenderSettings} {invoke invoke' : Invoke} {slots slots' : Slots}

theorem renderSource (together : SlotsPair (Together trusted related) slots slots')
    (source : Source)
    : Together trusted related (slots.renderSource cx source) (slots'.renderSource cx source) := by
  cases source with
  | literal text => exact renderText cx text
  | bare => exact done trivial
  | slot index => exact together.slot index
  | field index position => exact together.field index position

theorem renderSlotContent (together : SlotsPair (Together trusted related) slots slots')
    (node : Node)
    : Together trusted related (slots.renderContent cx node) (slots'.renderContent cx node) := by
  simp only [Slots.renderContent, together.values]
  split
  · exact fail _
  · exact done trivial
  · split
    · exact fail _
    · apply renderContent _ _
      split
      · exact renderSource together _
      · exact done trivial

/-- What a call gives to a component is trusted. -/
def Gives (trusted : Value → Prop) (slots : Slots) (branch : Branch) (call : Call) : Prop :=
  ∀ id,
    call = .component id
    → (∀ field ∈ (slots.nodeProps branch).2, trusted field.2)
      ∧ ∀ value, (slots.nodeProps branch).1.reference = some value → trusted value

/-- Making a call that concerns a node. Only a component can reach the store. -/
theorem callNode (together : SlotsPair (Together trusted related) slots slots')
    (invokes : InvokePair trusted (Together trusted related) invoke invoke')
    {branch : Branch} {call : Call} (gives : Gives trusted slots branch call)
    : Together trusted related (slots.callNode cx invoke branch call)
        (slots'.callNode cx invoke' branch call) := by
  cases call with
  | component id =>
      obtain ⟨props, reference⟩ := gives id rfl
      simp only [Slots.callNode, together.template]
      split
      · simp only [together.nodeProps_same]
        exact invokes _ _ _ props reference
      · exact done trivial
  | host node =>
      simp only [Slots.callNode, together.nodeProps_same]
      split
      · exact renderControl cx _ _
      · exact done trivial
  | content node => exact renderSlotContent together branch.node
  | selectOpen node =>
      simp only [Slots.callNode, Slots.openSelection, together.values]
      exact (writeOpenTag cx _ _).andThen (pushSelection _)
  | spread node entry =>
      simp only [Slots.callNode, together.values]
      exact writeOrFail _
  | dynamicName node entry =>
      simp only [Slots.callNode, together.values, Slots.writeProp]
      split
      next place location found =>
          cases slots.values[place]?.bind dynamicName? with
          | none => exact done trivial
          | some name =>
              dsimp only
              split
              · exact done trivial
              · exact writeOrFail _
      next => exact done trivial
  | «attribute» node entry =>
      simp only [Slots.callNode, together.values, Slots.writeProp]
      split
      · split
        · exact done trivial
        · exact writeOrFail _
      · exact done trivial
  | text | value | style | rootMarker | child | selectClose => exact done trivial

/-- Making a call that concerns the node with a number. -/
theorem callNodeById (together : SlotsPair (Together trusted related) slots slots')
    (invokes : InvokePair trusted (Together trusted related) invoke invoke')
    {id : Nat} {call : Call}
    (gives
      : ∀ branch,
          slots.template.tree.branch? id = some branch → Gives trusted slots branch call)
    : Together trusted related (slots.callNodeById cx invoke id call)
        (slots'.callNodeById cx invoke' id call) := by
  simp only [Slots.callNodeById, together.template]
  split
  next branch found => exact callNode together invokes (gives branch found)
  next => exact done trivial

theorem runCall (together : SlotsPair (Together trusted related) slots slots')
    (invokes : InvokePair trusted (Together trusted related) invoke invoke') {call : Call}
    (gives
      : ∀ id branch,
          call = .component id
          → slots.template.tree.branch? id = some branch
          → Gives trusted slots branch call)
    : Together trusted related (slots.runCall cx invoke call)
        (slots'.runCall cx invoke' call) := by
  cases call with
  | text escaped => exact writeText _ _
  | value slot name custom =>
      simp only [Slots.runCall, Slots.value, together.values]
      exact writeAll _
  | style slot =>
      simp only [Slots.runCall, Slots.value, together.values]
      exact writeOrFail _
  | rootMarker => exact writeRootMarker _
  | child slot leadNewline =>
      simp only [Slots.runCall, Slots.value, together.values]
      exact renderChild _ _ (together.slot slot)
  | selectClose => exact popSelection
  | component id =>
      exact callNodeById together invokes fun branch found => gives id branch rfl found
  | dynamicName id _ | «attribute» id _ | spread id _ | content id | host id | selectOpen id =>
      exact callNodeById together invokes fun branch _ => by simp [Gives]

-----------------------------------------------------------------------------------------
-- Whole renders
-----------------------------------------------------------------------------------------

variable {known : Template → Prop}

theorem doWork {work : Work α}
    (alike
      : ∀ store other,
          related store other → Work.Alike related good work work store other)
    : Lockstep trusted related good (Render.doWork work) (Render.doWork work) := by
  intro state store kept provided
  obtain ⟨result, reached, reached', left, right, kept, fine⟩ := alike state.store store kept
  refine ⟨result, { state with store := reached }, reached', ?_, ?_, kept, provided, id, fine⟩
  · simp only [Render.doWork, left]
  · simp only [Render.doWork, right]

theorem runBody (answering : Store.Answering cx.settings trusted known related)
    (renders : Store.Renders cx.inner trusted known related)
    (defaults : ∀ name, trusted (cx.host.contextDefault name)) {body : Body Value}
    (keeps : body.Keeps trusted known)
    : Lockstep trusted related trusted (Render.runBody cx body) (Render.runBody cx body) :=
  read (fun _ _ => rfl) fun _ provided =>
    doWork fun _ _ kept => answering.run renders (contextValue_forall provided defaults) keeps kept

/-- Renders from related stores go together as long as all code keeps values trusted and asks for
known templates, and as long as bound templates are run together.
-/
theorem pairing {bound : Invoke → Slots → Option Nat → Render Unit}
    (answering : Store.Answering cx.settings trusted known related)
    (renders : Store.Renders cx.inner trusted known related)
    (keeps : cx.host.Keeps trusted known) (inherited : Value.Inherited trusted)
    (inside
      : ∀ {markup : Markup},
          trusted (.markup markup) → ∀ value ∈ markup.values, trusted value)
    (runs
      : ∀ {slots slots' : Slots} {entry : Option Nat} {invoke invoke' : Invoke},
          trusted (.markup ⟨slots.serial, slots.template, slots.values, entry⟩)
          → SlotsPair (Together trusted related) slots slots'
          → InvokePair trusted (Together trusted related) invoke invoke'
          → Together trusted related (slots.render cx invoke entry)
              (bound invoke' slots' entry))
    : Pairing cx cx.options bound trusted known (Together trusted related) where
  limit := rfl
  inherited := inherited
  host := keeps
  nothing := done trivial
  fail := fail
  andThen := andThen
  text escaped := writeText _ escaped
  element tag props _ _ _ inside := renderHost cx tag props inside
  provided _ _ _ _ holds inside :=
    (pushProvider holds).andThen (inside.andThen popProvider)
  nested inside := (enter cx.options).andThen (inside.andThen leave)
  contextual _ _ _ rest :=
    read (fun _ _ => rfl) fun _ provided =>
      rest _ (contextValue_forall provided keeps.contextDefault _)
  code _ _ _ kept rest := (runBody answering renders keeps.contextDefault kept).bind rest
  markup holds invokes slot field :=
    @runs ⟨_, _, _, _, _⟩ _ _ _ _ holds ⟨rfl, rfl, rfl, slot, field⟩ invokes
  slots holds := inside holds

-----------------------------------------------------------------------------------------
-- The same way of running bound templates
-----------------------------------------------------------------------------------------

/-- Running a program, by induction on its steps. -/
theorem runProgram (together : SlotsPair (Together (fun _ => True) related) slots slots')
    (invokes : InvokePair (fun _ => True) (Together (fun _ => True) related) invoke invoke')
    (program : Program)
    : Together (fun _ => True) related (slots.runProgram cx invoke program)
        (slots'.runProgram cx invoke' program) := by
  induction program with
  | nil => exact done trivial
  | cons instruction rest ih =>
      cases instruction with
      | write piece => exact (write piece).andThen ih
      | call call =>
          refine (runCall together invokes fun _ _ _ _ => ?_).andThen ih
          simp [Gives]

/-- Running the program of a whole template or of one node in it. -/
theorem renderSlots (together : SlotsPair (Together (fun _ => True) related) slots slots')
    (invokes : InvokePair (fun _ => True) (Together (fun _ => True) related) invoke invoke')
    (entry : Option Nat)
    : Together (fun _ => True) related (slots.render cx invoke entry)
        (slots'.render cx invoke' entry) := by
  simp only [Slots.render, together.template]
  split
  · exact runProgram together invokes _
  · exact done trivial

theorem renderRoot
    (answering : Store.Answering cx.settings (fun _ => True) known related)
    (renders : Store.Renders cx.inner (fun _ => True) known related)
    (keeps : cx.host.Keeps (fun _ => True) known) (value : Value)
    : Together (fun _ => True) related (Render.renderRoot cx value)
        (Render.renderRoot cx value) := by
  have together := pairing answering renders keeps Value.inherited_true (by simp)
    fun _ together invokes => renderSlots together invokes _
  simpa only [renderRootBy_render] using together.renderRoot trivial

end Lockstep

end Render

end TaggedMarkup
