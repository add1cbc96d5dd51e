import TaggedMarkup.Proofs.Rendering.Inline
import TaggedMarkup.Proofs.Rendering.Twins

/-! Programs have calls for the marker only where an element may be the first one, and nothing
between such a call and the end of the open tag writes anything. Normal and static markup of
genuine values therefore differ in their marks only.
-/

namespace TaggedMarkup

open Stateful

namespace Render.Dressed

variable {cx : RenderSettings} {marked top leadNewline : Bool} {invoke invoke' : Invoke}
  {slots slots' : Slots}

-----------------------------------------------------------------------------------------
-- Calls
-----------------------------------------------------------------------------------------

theorem renderSource (normal : cx.options.staticMarkup = false)
    (slotsPair : SlotsPair (Dressed cx) slots slots') (source : Source)
    : Dressed cx (slots.renderSource cx source) (slots'.renderSource cx.static source) := by
  cases source with
  | literal text => exact renderText normal text
  | bare => exact nothing
  | slot index => exact slotsPair.slot index
  | field index position => exact slotsPair.field index position

/-- Rendering the content that attributes give to an element that is not void. -/
theorem renderSlotContent (normal : cx.options.staticMarkup = false)
    (slotsPair : SlotsPair (Dressed cx) slots slots') (node : Node)
    : Dressed cx (slots.renderContent cx node) (slots'.renderContent cx.static node) := by
  simp only [Slots.renderContent, slotsPair.values]
  split
  · exact fail _
  · exact nothing
  · split
    · exact fail _
    · apply renderContent _ _
      split
      · exact renderSource normal slotsPair _
      · exact nothing

/-- An element that is compiled inline begins, and the marker stands in it unless there is an
element around it.
-/
theorem openNode (normal : cx.options.staticMarkup = false)
    (slotsPair : SlotsPair (Dressed cx) slots slots') (node : Node) (tag : String)
    (due : top = true ∨ marked = true)
    : Matches True (Twins cx false marked) (Opened cx) (slots.openNode cx node tag top)
        (slots'.openNode cx.static node tag top) := by
  simp only [Slots.openNode, slotsPair.values]
  split
  · simp only [Slots.openSelection, slotsPair.values]
    refine .andThen (matches_writeOpenTag normal _ _) ?_
    exact .of_ok (modify_apply _) (modify_apply _) fun _ _ opened => opened.select _
  · refine .andThen (matches_write rfl rfl rfl) (.andThen (matches_writeProps _ _) ?_)
    cases top with
    | true => exact matches_writeRootMarker normal
    | false =>
        obtain rfl : marked = true := due.resolve_left Bool.false_ne_true
        exact matches_noMarker

theorem endHost (tag : String) : Dressed cx (Render.endHost tag) (Render.endHost tag) := by
  simp only [Render.endHost]
  apply andThen (fun _ => matches_write rfl rfl rfl)
  split
  · exact popSelection
  · exact nothing

theorem renderGiven (normal : cx.options.staticMarkup = false)
    (slotsPair : SlotsPair (Dressed cx) slots slots') (node : Node)
    : Dressed cx (slots.renderGiven cx node) (slots'.renderGiven cx.static node) := by
  simp only [Slots.renderGiven]
  split
  · exact renderSlotContent normal slotsPair node
  · exact nothing

/-- A void element writes no content that attributes may give. -/
theorem renderVoidGiven (slotsPair : SlotsPair (Dressed cx) slots slots') {node : Node}
    (isVoid : node.isVoid = true)
    : Matches True (Opened cx) (Opened cx) (slots.renderGiven cx node)
        (slots'.renderGiven cx.static node) := by
  simp only [Slots.renderGiven, Slots.renderContent, slotsPair.values, isVoid, if_true]
  split
  · split
    · exact .fail _
    · exact .nothing
    · exact .fail _
  · exact .nothing

-----------------------------------------------------------------------------------------
-- Nodes
-----------------------------------------------------------------------------------------

/-- A bound template of genuine values whose slots and whose components run dressed. -/
structure Bound (cx : RenderSettings) (invoke invoke' : Invoke) (slots slots' : Slots)
    : Prop where
  normal : cx.options.staticMarkup = false
  pair : SlotsPair (Dressed cx) slots slots'
  invokes : InvokePair Value.Genuine (Dressed cx) invoke invoke'
  form : slots.template.Genuine
  values : ∀ value ∈ slots.values, Value.Genuine value

theorem renderComponentNode (bound : Bound cx invoke invoke' slots slots') (branch : Branch)
    : Dressed cx (slots.callNode cx invoke branch (.component branch.node.id))
        (slots'.callNode cx.static invoke' branch (.component branch.node.id)) := by
  have whole : Value.Genuine (.markup ⟨slots.serial, slots.template, slots.values, none⟩) :=
    .markup bound.form bound.values
  have properties := Value.closed_genuine.templateProps whole branch
  simp only [Slots.callNode, bound.pair.template, bound.pair.nodeProps_same]
  split
  · exact bound.invokes _ _ _ properties.1 properties.2
  · exact nothing

mutual

/-- A child is rendered dressed, by induction on the child. It may stand where no element has
been written if it is compiled for that.
-/
theorem renderNode (bound : Bound cx invoke invoke' slots slots') {marked top : Bool}
    (due : top = true ∨ marked = true) (leadNewline : Bool)
    : ∀ child,
        Matches True (Twins cx false marked) (Twins cx false marked)
          (slots.renderNode cx invoke top leadNewline child)
          (slots'.renderNode cx.static invoke' top leadNewline child)
  | .text text => dressed_writeText bound.normal _ _
  | .slot slot => by
      simp only [Slots.renderNode, Slots.value, bound.pair.values]
      exact renderChild _ _ (bound.pair.slot slot) marked
  | .branch node children => by
      cases isTag : node.tag with
      | fragment =>
          rw [Slots.renderNode_fragment isTag, Slots.renderNode_fragment isTag]
          exact renderNodes bound due false children
      | component name =>
          rw [Slots.renderNode_component isTag, Slots.renderNode_component isTag]
          exact renderComponentNode bound ⟨node, children⟩ marked
      | element tag =>
          cases isControl : Program.isFormControl tag with
          | true =>
              rw [Slots.renderNode_control isTag isControl,
                Slots.renderNode_control isTag isControl, bound.pair.nodeProps_same]
              exact renderControl bound.normal _ _ marked
          | false =>
              have opens := openNode bound.normal bound.pair node tag due
              cases isVoid : node.isVoid with
              | true =>
                  rw [Slots.renderNode_void isTag isControl isVoid,
                    Slots.renderNode_void isTag isControl isVoid]
                  refine opens.andThen (.andThen (renderVoidGiven bound.pair isVoid) ?_)
                  exact (matches_end rfl rfl).weaken (fun _ _ opened => opened)
                    (fun _ _ => Twins.weaken)
              | false =>
                  rw [Slots.renderNode_around isTag isControl isVoid,
                    Slots.renderNode_around isTag isControl isVoid]
                  refine opens.andThen (.andThen (matches_end rfl rfl) ?_)
                  refine Matches.weaken ?_ (fun _ _ twins => twins) (fun _ _ => Twins.weaken)
                  refine .andThen ?_ (endHost tag true)
                  split
                  · exact renderGiven bound.normal bound.pair node true
                  · exact renderNodes bound (.inr rfl) _ children

theorem renderNodes (bound : Bound cx invoke invoke' slots slots') {marked top : Bool}
    (due : top = true ∨ marked = true) (leadNewline : Bool)
    : ∀ children,
        Matches True (Twins cx false marked) (Twins cx false marked)
          (slots.renderNodes cx invoke top leadNewline children)
          (slots'.renderNodes cx.static invoke' top leadNewline children)
  | [] => .nothing
  | child :: rest =>
      .andThen (renderNode bound due leadNewline child) (renderNodes bound due leadNewline rest)

end

-----------------------------------------------------------------------------------------
-- Whole renders
-----------------------------------------------------------------------------------------

/-- Running a bound template or one node in it, which goes through the tree. -/
theorem renderSlots (bound : Bound cx invoke invoke' slots slots') (entry : Option Nat)
    : Dressed cx (slots.render cx invoke entry) (slots'.render cx.static invoke' entry) := by
  have form' : slots'.template.Genuine := bound.pair.template ▸ bound.form
  intro marked
  refine .left (Slots.render_alike bound.form entry) ?_
  refine .right (Slots.render_alike form' entry).symm ?_
  rw [bound.pair.template]
  exact renderNodes bound (.inl rfl) false _

theorem runBody (leaves : cx.LeavesRead) {body : Body Value} {next next' : Value → Render Unit}
    (defaults : ∀ name, Value.Genuine (cx.host.contextDefault name))
    (keeps : body.Keeps Value.Genuine fun _ => True)
    (rest : ∀ value, Value.Genuine value → Dressed cx (next value) (next' value))
    : Dressed cx (Render.runBody cx body >>= next) (Render.runBody cx.static body >>= next') := by
  intro marked state other twins
  obtain ⟨result, reached, -, runs, -, ⟨-, read⟩, fine⟩ :=
    (Store.Read.answering Value.closed_genuine.toFormed (Value.genuine_binds _) fun _ => True).run
      (leaves.renders _ _) (contextValue_forall twins.providers defaults) keeps ⟨rfl, twins.read⟩
  have left : Render.runBody cx body state = (result, { state with store := reached }) := by
    simp only [Render.runBody, bind_apply, get_apply, doWork, runs]
  have right
      : Render.runBody cx.static body other = (result, { other with store := reached }) := by
    rw [twins.same]
    simp only [Render.runBody, bind_apply, get_apply, doWork, runs]
  have now
      : Twins cx false marked { state with store := reached } { other with store := reached } :=
    @Twins.change _ _ _ _ _ twins (fun state => { state with store := reached }) (fun _ => rfl)
      rfl read twins.providers
  simp only [bind_apply, left, right]
  cases result with
  | error error => exact Dressed.fail error marked _ _ now
  | ok value => exact rest value (fine value rfl) marked _ _ now

/-- Renders of genuine values run dressed as long as code keeps values genuine. -/
theorem pairing (normal : cx.options.staticMarkup = false) (leaves : cx.LeavesRead)
    (keeps : cx.host.Keeps Value.Genuine fun _ => True)
    : Pairing cx { cx.options with staticMarkup := true } (Slots.render cx.static)
        Value.Genuine (fun _ => True) (Dressed cx) where
  limit := rfl
  inherited := Value.closed_genuine.toInherited
  host := keeps
  nothing := nothing
  fail := fail
  andThen := andThen
  text escaped := dressed_writeText normal escaped
  element tag props _ _ _ inner := renderHost normal tag props inner
  provided context value _ _ genuine inner := by
    have push : Dressed cx (pushProvider context value) (pushProvider context value) := by
      refine change (fun _ _ => rfl) (fun _ => rfl) (fun _ => rfl) ?_
      intro state providers provider member
      rcases List.mem_cons.mp member with rfl | around
      · exact genuine
      · exact providers provider around
    have pop : Dressed cx popProvider popProvider := by
      refine change (fun _ _ => rfl) (fun _ => rfl) (fun _ => rfl) ?_
      intro state providers provider member
      exact providers provider (List.mem_of_mem_tail member)
    exact push.andThen (inner.andThen pop)
  nested inner := by
    have enters : Dressed cx (enter cx.options) (enter cx.static.options) := by
      intro marked state other twins
      have depth : other.depth = state.depth := by rw [twins.same]
      simp only [enter, bind_apply, get_apply, depth]
      split
      · exact fail _ marked state other twins
      · have deeper : Dressed cx (modify RenderState.deeper) (modify RenderState.deeper) :=
          change (fun _ _ => rfl) (fun _ => rfl) (fun _ => rfl) (fun _ providers => providers)
        exact deeper marked state other twins
    have goesBack : Dressed cx leave leave :=
      change (fun _ _ => rfl) (fun _ => rfl) (fun _ => rfl) (fun _ providers => providers)
    exact enters.andThen (inner.andThen goesBack)
  contextual context next next' rest := by
    intro marked state other twins
    have providers : other.providers = state.providers := by rw [twins.same]
    simp only [bind_apply, get_apply, providers]
    have provided := contextValue_forall twins.providers keeps.contextDefault context
    exact rest _ provided marked state other twins
  code body _ _ kept rest := runBody leaves keeps.contextDefault kept rest
  markup genuine invokes slot field := by
    cases genuine with
    | markup form inside =>
        refine renderSlots ⟨normal, ?_, invokes, form, inside⟩ _
        exact ⟨rfl, rfl, rfl, slot, field⟩
  slots genuine := by
    cases genuine with
    | markup form inside => exact inside

/-- A whole render of a genuine value. It fails in both ways, or it writes whole tags in static
markup and the same with marks in normal markup.
-/
theorem renderRoot (normal : cx.options.staticMarkup = false) (leaves : cx.LeavesRead)
    (keeps : cx.host.Keeps Value.Genuine fun _ => True) {store : Store}
    (read : Store.Read cx.settings.options.read store) {value : Value} (genuine : value.Genuine)
    : (∃ error state other,
        Render.renderRoot cx value { store } = (.error error, state)
        ∧ Render.renderRoot cx.static value { store } = (.error error, other))
      ∨ ∃ state other,
          Render.renderRoot cx value { store } = (.ok (), state)
          ∧ Render.renderRoot cx.static value { store } = (.ok (), other)
          ∧ Piece.Whole other.output.toList
          ∧ state.output.toList
            = Piece.dressed cx.options.rootMarker other.output.toList := by
  have start : Twins cx false false { store } { store } := by
    refine ⟨rfl, ?_, rfl, rfl, nofun, read, by simp⟩
    cases cx.options.rootMarker <;> rfl
  have dressed := (pairing normal leaves keeps).renderRoot genuine
  rw [renderRootBy_render] at dressed
  obtain ⟨succeeds, fails⟩ := dressed false _ _ start
  cases rendered : Render.renderRoot cx value { store } with
  | mk result state =>
      cases result with
      | error error =>
          obtain ⟨other, rendered'⟩ := fails trivial error state rendered
          exact .inl ⟨error, state, other, rfl, rendered'⟩
      | ok =>
          obtain ⟨other, rendered', twins⟩ := succeeds state rendered
          refine .inr ⟨state, other, rfl, rendered', twins.stands, ?_⟩
          rw [Piece.dressed_eq_worn twins.stands]
          exact twins.output

end Render.Dressed

-----------------------------------------------------------------------------------------
-- Engines
-----------------------------------------------------------------------------------------

namespace Engine

variable {engine : Engine} {host : Host} {template : Template} {values : List Value}

/-- The pieces that a render which came to an outcome has written. -/
def piecesOf : Except Error Unit × RenderState → Except Error (List Piece)
  | (.ok (), state) => .ok state.output.toList
  | (.error error, _) => .error error

/-- The pieces that a render of a template writes. -/
def written (engine : Engine) (host : Host) (static : Bool) (template : Template)
    (values : List Value) : Except Error (List Piece) :=
  let values := engine.plugins.applyBefore values
  match Work.markup engine.settings template values engine.store with
  | (.error error, _) => .error error
  | (.ok markup, store) =>
      piecesOf (Render.renderRoot (engine.rendering host static) (.markup markup) { store })

/-- A render gives the characters of the pieces that it writes. -/
theorem render_written (engine : Engine) (host : Host) (static : Bool) (template : Template)
    (values : List Value)
    : (engine.render host static template values).1
      = (engine.written host static template values).map fun pieces =>
          engine.plugins.applyAfter (Piece.renderAll pieces) := by
  simp only [render_eq, doWork, ExceptT.run, written]
  cases Work.markup engine.settings template (engine.plugins.applyBefore values) engine.store with
  | mk result store =>
      cases result with
      | error error => rfl
      | ok markup =>
          simp only [renderValue_eq, rendering, doWork, ExceptT.run, Render.give_apply]
          generalize Render.renderRoot _ (.markup markup) _ = outcome
          obtain ⟨result, state⟩ := outcome
          cases result <;> rfl

/-- Normal markup of a template is static markup with its marks, in every state that an engine
without plugins can come to. The two fail alike, or the pieces of static markup are whole tags
and those of normal markup have separators between texts and the marker in the first open tag.
-/
theorem static_markup (keeps : host.Keeps Value.Genuine fun _ => True)
    (reached : Engine.Reachable host (fun _ => True) engine)
    (noPlugins : engine.plugins.isEmpty = true)
    (normal : engine.settings.options.render.staticMarkup = false)
    (genuine : ∀ value ∈ values, Value.Genuine value)
    : (∃ error,
        (engine.render host false template values).1 = .error error
        ∧ (engine.render host true template values).1 = .error error)
      ∨ ∃ pieces,
          engine.written host true template values = .ok pieces
          ∧ Piece.Whole pieces
          ∧ (engine.render host true template values).1 = .ok (Piece.renderAll pieces)
          ∧ (engine.render host false template values).1
            = .ok
                (Piece.renderAll
                  (Piece.dressed engine.settings.options.render.rootMarker pieces)) := by
  have now := (Store.Read.invariant fun _ => True).reachable host.keeps_true reached
  simp only [render_written, Plugins.applyAfter_none noPlugins]
  simp only [written, Plugins.applyBefore_none noPlugins]
  cases bound : Work.markup engine.settings template values engine.store with
  | mk result store =>
      cases result with
      | error error => exact .inl ⟨error, rfl, rfl⟩
      | ok markup =>
          have kept :=
            @Store.Lasting.markup _ _ _ (Store.Read.lasting (fun _ => True) engine.settings)
              template values engine.store trivial now
          rw [bound] at kept
          have genuine' := now.markup_good (Value.genuine_binds _) genuine bound
          have gives {outcome ended : Except Error Unit × RenderState} (same : outcome = ended)
              : (piecesOf outcome).map Piece.renderAll = (piecesOf ended).map Piece.renderAll :=
            congrArg (fun outcome => (piecesOf outcome).map Piece.renderAll) same
          rcases @Render.Dressed.renderRoot (engine.rendering host false) normal
              (engine.leavesRead host false) keeps store kept _ genuine' with
            ⟨error, state, other, isNormal, isStatic⟩
            | ⟨state, other, isNormal, isStatic, whole, marks⟩
          · exact .inl ⟨error, gives isNormal, gives isStatic⟩
          · refine .inr ⟨other.output.toList, congrArg piecesOf isStatic, whole, gives isStatic, ?_⟩
            refine (gives isNormal).trans ?_
            exact congrArg (fun pieces => Except.ok (Piece.renderAll pieces)) marks

/-- Two texts in an element have a separator between them and the element has the marker. -/
theorem static_markup_two_texts
    : let engine := Engine.ofOptions {}
      let host := Host.constant fun _ => .undefined
      let template : Template := ⟨0, ["<p>", "", "</p>"]⟩
      let values : List Value := [.string "a", .string "b"]
      (engine.render host true template values).1 = .ok "<p>ab</p>"
      ∧ (engine.render host false template values).1
        = .ok "<p data-reactroot=\"\">a<!-- -->b</p>"
      ∧ ∃ pieces,
          engine.written host true template values = .ok pieces
          ∧ Piece.Whole pieces
          ∧ (engine.render host false template values).1
            = .ok (Piece.renderAll (Piece.dressed true pieces)) := by
  intro engine host template values
  have genuine : ∀ value ∈ values, Value.Genuine value := by
    intro value member
    simp only [values, List.mem_cons, List.not_mem_nil, or_false] at member
    rcases member with rfl | rfl
    · exact .string "a"
    · exact .string "b"
  have succeeds : (engine.render host false template values).1
      = .ok "<p data-reactroot=\"\">a<!-- -->b</p>" := by
    decide +kernel
  refine ⟨by decide +kernel, succeeds, ?_⟩
  rcases @static_markup engine host template values
      (Host.keeps_constant .undefined fun _ => .undefined) (.start {}) rfl rfl genuine with
    ⟨error, failed, -⟩ | ⟨pieces, isWritten, whole, -, isNormal⟩
  · cases succeeds.symm.trans failed
  · exact ⟨pieces, isWritten, whole, isNormal⟩

end Engine

end TaggedMarkup
