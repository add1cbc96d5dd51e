import TaggedMarkup.Proofs.Caching.Origin
import TaggedMarkup.Proofs.Rendering.Attributes
import TaggedMarkup.Proofs.Rendering.Marks
import TaggedMarkup.Proofs.Rendering.Pairing

/-! A normal render and a static one go through the same states apart from their output, and
the normal output is the static one with the marks that it has so far. Inside an open tag the
marker may already have been written while the end is still to come.
-/

namespace TaggedMarkup

/-- The settings of the same render with static markup. -/
abbrev RenderSettings.static (cx : RenderSettings) : RenderSettings :=
  { cx with options := { cx.options with staticMarkup := true } }

namespace Render

open Stateful

-----------------------------------------------------------------------------------------
-- States of two renders
-----------------------------------------------------------------------------------------

/-- The first state of two differs from the second in the marks of its output. `inside` says
whether an open tag is being written, and `marked` that an element has been written before.
-/
structure Twins (cx : RenderSettings) (inside marked : Bool) (state other : RenderState)
    : Prop where
  same : other = { state with output := other.output }
  output : state.output.toList = Piece.worn cx.options.rootMarker other.output.toList
  stands : other.output.toList.foldlM Piece.follow false = some inside
  rootMarked : state.rootMarked = other.output.toList.any Piece.isEnd
  marked : marked = true → state.rootMarked = true
  read : Store.Read cx.settings.options.read state.store
  providers : ∀ provider ∈ state.providers, Value.Genuine provider.2

/-- Two states in an open tag whose attributes and whose marker have been written. -/
structure Opened (cx : RenderSettings) (state other : RenderState) : Prop where
  same : other = { state with output := other.output }
  output
    : state.output.toList
      = Piece.worn cx.options.rootMarker other.output.toList
        ++ if cx.options.rootMarker && !other.output.toList.any Piece.isEnd then
            [.rootMarker]
          else
            []
  stands : other.output.toList.foldlM Piece.follow false = some true
  rootMarked : state.rootMarked = true
  read : Store.Read cx.settings.options.read state.store
  providers : ∀ provider ∈ state.providers, Value.Genuine provider.2

/-- Two moves between tags that match whether or not an element has been written. -/
def Dressed (cx : RenderSettings) (first second : Render Unit) : Prop :=
  ∀ marked, Matches True (Twins cx false marked) (Twins cx false marked) first second

variable {cx : RenderSettings} {inside marked : Bool}

/-- Less may be known of what has been written. -/
theorem Twins.weaken {state other : RenderState} (twins : Twins cx inside true state other)
    : Twins cx inside marked state other :=
  { twins with marked := fun _ => twins.marked rfl }

/-- Changes apart from the output and the marker keep states twins. -/
theorem Twins.change {state other : RenderState} (twins : Twins cx inside marked state other)
    {change : RenderState → RenderState}
    (apart : ∀ output, change { state with output } = { change state with output })
    (rootMarked : (change state).rootMarked = state.rootMarked)
    (read : Store.Read cx.settings.options.read (change state).store)
    (providers : ∀ provider ∈ (change state).providers, Value.Genuine provider.2)
    : Twins cx inside marked (change state) (change other) := by
  have left : (change state).output = state.output := by
    have := congrArg RenderState.output (apart state.output)
    exact this
  have right : change other = { change state with output := other.output } := by
    rw [twins.same]
    exact apart other.output
  rw [right]
  exact ⟨rfl, left ▸ twins.output, twins.stands, rootMarked ▸ twins.rootMarked,
    fun isMarked => rootMarked ▸ twins.marked isMarked, read, providers⟩

/-- Entering a selection keeps states in an open tag. -/
theorem Opened.select {state other : RenderState} (opened : Opened cx state other)
    (value : Value)
    : Opened cx { state with selections := value :: state.selections }
        { other with selections := value :: other.selections } := by
  refine ⟨?_, opened.output, opened.stands, opened.rootMarked, opened.read, opened.providers⟩
  rw [opened.same]

-----------------------------------------------------------------------------------------
-- Pieces
-----------------------------------------------------------------------------------------

theorem matches_write {piece : Piece} {inside' : Bool}
    (follows : Piece.follow inside piece = some inside') (notText : piece.isText = false)
    (notEnd : piece.isEnd = false)
    : Matches True (Twins cx inside marked) (Twins cx inside' marked) (write piece)
        (write piece) := by
  refine .of_ok (write_apply piece) (write_apply piece) ?_
  intro state other twins
  refine ⟨?_, ?_, ?_, ?_, twins.marked, twins.read, twins.providers⟩
  · rw [twins.same]
  · simp only [Array.toList_push, twins.output, Piece.worn_append_plain notText notEnd]
  · rw [Array.toList_push, List.foldlM_append, twins.stands]
    simp [follows]
  · simp [twins.rootMarked, notEnd]

/-- Whether the output of a render ends in text. -/
theorem endsInText_eq (output : Array Piece)
    : endsInText output = Piece.endInText false output.toList := by
  simp only [endsInText, Piece.endInText, Array.getLast?_toList]
  cases output.back? with
  | none => rfl
  | some piece => cases piece <;> rfl

theorem dressed_writeText (normal : cx.options.staticMarkup = false) (escaped : String)
    : Dressed cx (writeText cx.options escaped) (writeText cx.static.options escaped) := by
  intro marked
  refine .of_ok (writeText_apply _ escaped) (writeText_apply _ escaped) ?_
  intro state other twins
  have ends : endsInText state.output = Piece.endInText false other.output.toList := by
    rw [endsInText_eq, twins.output, Piece.endInText_worn]
  refine ⟨?_, ?_, ?_, ?_, twins.marked, twins.read, twins.providers⟩
  · rw [twins.same]
  · simp only [ends, normal, Bool.not_false, Bool.and_true, Bool.not_true, Bool.and_false,
      Bool.false_eq_true, if_false, Array.toList_push, Piece.worn_append_text]
    split <;> simp [twins.output]
  · simp only [Bool.not_true, Bool.and_false, Bool.false_eq_true, if_false, Array.toList_push]
    rw [List.foldlM_append, twins.stands]
    rfl
  · simp [twins.rootMarked, Piece.isEnd]

theorem matches_writeAttributes {pieces : List Piece}
    (attributes : ∀ piece ∈ pieces, ∃ name body, piece = .attribute name body)
    : Matches True (Twins cx true marked) (Twins cx true marked) (writeAll pieces)
        (writeAll pieces) := by
  induction pieces with
  | nil => exact .nothing
  | cons first rest ih =>
      obtain ⟨name, body, rfl⟩ := attributes first (by simp)
      exact .andThen (matches_write rfl rfl rfl)
        (ih fun piece member => attributes piece (by simp [member]))

/-- The marker is written in normal markup if it is due. -/
theorem matches_writeRootMarker (normal : cx.options.staticMarkup = false)
    : Matches True (Twins cx true marked) (Opened cx) (writeRootMarker cx.options)
        (writeRootMarker cx.static.options) := by
  refine .of_ok (writeRootMarker_apply _) (writeRootMarker_apply _) ?_
  intro state other twins
  refine ⟨?_, ?_, ?_, rfl, twins.read, twins.providers⟩
  · rw [twins.same]
  · simp only [normal, twins.rootMarked, Bool.not_false, Bool.and_true, Bool.not_true,
      Bool.and_false, Bool.false_eq_true, if_false]
    rw [Bool.and_comm]
    split <;> simp [twins.output]
  · simpa using twins.stands

/-- No marker is due in an element around which there is another. -/
theorem matches_noMarker
    : Matches True (Twins cx true true) (Opened cx) (pure ()) (pure ()) := by
  refine .of_ok (fun _ => rfl) (fun _ => rfl) fun state other twins => ?_
  have isMarked := twins.marked rfl
  refine ⟨twins.same, ?_, twins.stands, isMarked, twins.read, twins.providers⟩
  rw [← twins.rootMarked, isMarked, twins.output]
  simp

theorem matches_end {piece : Piece} (follows : Piece.follow true piece = some false)
    (isLast : piece.isEnd = true)
    : Matches True (Opened cx) (Twins cx false true) (write piece) (write piece) := by
  refine .of_ok (write_apply piece) (write_apply piece) ?_
  intro state other opened
  refine ⟨?_, ?_, ?_, ?_, fun _ => opened.rootMarked, opened.read, opened.providers⟩
  · rw [opened.same]
  · simp only [Array.toList_push, opened.output, Piece.worn_append_end isLast]
    split <;> simp
  · rw [Array.toList_push, List.foldlM_append, opened.stands]
    simp [follows]
  · simp [opened.rootMarked, isLast]

-----------------------------------------------------------------------------------------
-- Elements
-----------------------------------------------------------------------------------------

namespace Dressed

variable {first second first' second' : Render Unit}

theorem nothing : Dressed cx (pure ()) (pure ()) :=
  fun _ => .nothing

theorem fail (error : Error) : Dressed cx (throw error) (throw error) :=
  fun _ => .fail error

theorem andThen (start : Dressed cx first first') (rest : Dressed cx second second')
    : Dressed cx (first >>= fun _ => second) (first' >>= fun _ => second') :=
  fun marked => (start marked).andThen (rest marked)

/-- Changing the state apart from its output, its marker and its store, where the contexts stay
genuine.
-/
theorem change {change : RenderState → RenderState}
    (apart : ∀ state output, change { state with output } = { change state with output })
    (rootMarked : ∀ state, (change state).rootMarked = state.rootMarked)
    (store : ∀ state, (change state).store = state.store)
    (providers
      : ∀ state,
          (∀ provider ∈ state.providers, Value.Genuine provider.2)
          → ∀ provider ∈ (change state).providers, Value.Genuine provider.2)
    : Dressed cx (modify change) (modify change) := by
  intro marked
  refine .of_ok (modify_apply change) (modify_apply change) ?_
  intro state other twins
  exact twins.change (apart state) (rootMarked state) (store state ▸ twins.read)
    (providers state twins.providers)

theorem pushSelection (value : Value)
    : Dressed cx (Render.pushSelection value) (Render.pushSelection value) :=
  change (fun _ _ => rfl) (fun _ => rfl) (fun _ => rfl) (fun _ providers => providers)

theorem popSelection : Dressed cx Render.popSelection Render.popSelection :=
  change (fun _ _ => rfl) (fun _ => rfl) (fun _ => rfl) (fun _ providers => providers)

/-- Writing markup that a value gives as it is. -/
theorem raw (markup : String) : Dressed cx (write (.raw markup)) (write (.raw markup)) :=
  fun _ => matches_write rfl rfl rfl

theorem renderText (normal : cx.options.staticMarkup = false) (text : String)
    : Dressed cx (Render.renderText cx text) (Render.renderText cx.static text) := by
  simp only [Render.renderText]
  split
  · exact nothing
  · exact dressed_writeText normal _

/-- Rendering a child with a line feed before it where the first is lost. -/
theorem renderChild (leadNewline : Bool) (value : Value) (inner : Dressed cx first second)
    : Dressed cx (Render.renderChild leadNewline value first)
        (Render.renderChild leadNewline value second) := by
  simp only [Render.renderChild]
  split
  · exact (raw _).andThen inner
  · exact inner

theorem renderContent (tag : String) (content : Content) (inner : Dressed cx first second)
    : Dressed cx (Render.renderContent tag content first)
        (Render.renderContent tag content second) := by
  cases content with
  | nothing => exact nothing
  | children value => exact renderChild _ value inner
  | innerHtml markup =>
      simp only [Render.renderContent]
      split
      · exact (raw _).andThen (raw _)
      · exact raw _

end Dressed

theorem matches_writeProps (fields : List (String × Value)) (custom : Bool)
    : Matches True (Twins cx true marked) (Twins cx true marked)
        (writeOrFail (WrittenAttribute.ofProps fields custom))
        (writeOrFail (WrittenAttribute.ofProps fields custom)) := by
  cases written : WrittenAttribute.ofProps fields custom with
  | error error => exact .fail error
  | ok pieces => exact matches_writeAttributes (WrittenAttribute.ofProps_attribute written)

theorem matches_writeOpenTag (normal : cx.options.staticMarkup = false) (tag : String)
    (props : Props)
    : Matches True (Twins cx false marked) (Opened cx) (writeOpenTag cx tag props)
        (writeOpenTag cx.static tag props) :=
  .andThen (matches_write rfl rfl rfl)
    (.andThen (matches_writeProps _ _) (matches_writeRootMarker normal))

namespace Dressed

variable {first second : Render Unit}

/-- Rendering an element with its properties as they are. -/
theorem renderElement (normal : cx.options.staticMarkup = false) (tag : String) (props : Props)
    (inner : Dressed cx first second)
    : Dressed cx (Render.renderElement cx tag props first)
        (Render.renderElement cx.static tag props second) := by
  simp only [Render.renderElement]
  split
  · exact fail _
  split
  · exact fail _
  next content _ =>
      intro marked
      refine .andThen (matches_writeOpenTag normal tag props) ?_
      refine .weaken ?_ (fun _ _ opened => opened) (fun _ _ => Twins.weaken)
      split
      · exact matches_end rfl rfl
      · exact .andThen (matches_end rfl rfl)
          (.andThen (renderContent tag content inner true) (matches_write rfl rfl rfl))

theorem renderControl (normal : cx.options.staticMarkup = false) (tag : String) (props : Props)
    : Dressed cx (Render.renderControl cx tag props)
        (Render.renderControl cx.static tag props) := by
  simp only [Render.renderControl]
  split
  · exact renderElement normal tag _ nothing
  split
  · exact renderElement normal tag _ (renderText normal _)
  · intro marked state other twins
    have selections : other.selections = state.selections := by rw [twins.same]
    simp only [bind_apply, get_apply, selections]
    exact renderElement normal tag _ (renderText normal _) marked state other twins

theorem renderHost (normal : cx.options.staticMarkup = false) (tag : String) (props : Props)
    (inner : Dressed cx first second)
    : Dressed cx (Render.renderHost cx tag props first)
        (Render.renderHost cx.static tag props second) := by
  simp only [Render.renderHost]
  split
  · exact renderControl normal tag props
  split
  · exact renderElement normal tag _ ((pushSelection _).andThen (inner.andThen popSelection))
  · exact renderElement normal tag props inner

end Dressed

end Render

end TaggedMarkup
