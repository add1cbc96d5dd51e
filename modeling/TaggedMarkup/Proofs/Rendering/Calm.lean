import TaggedMarkup.Proofs.Rendering.Primitives
import TaggedMarkup.Proofs.Rendering.Written

/-! Only the nesting of components makes a render fail because it is too deep. Everything between
two components is calm: it may fail, but for other reasons, and it is as deep in the end as in the
beginning.
-/

namespace TaggedMarkup.Render

open Stateful

/-- Work that never fails because components are nested too deep, and that neither goes into
components nor comes out of them.
-/
structure Calm {α : Type} (work : Render α) : Prop where
  cause : ∀ state limit, (work state).1 ≠ .error (.recursionLimit limit)
  depth : ∀ state, (work state).2.depth = state.depth

namespace Calm

variable {cx : RenderSettings} {α β : Type}

/-- Work that succeeds is calm when what it changes is not the depth. -/
theorem of_ok {work : Render α} {result : α} {change : RenderState → RenderState}
    (succeeds : ∀ state, work state = (.ok result, change state))
    (depth : ∀ state, (change state).depth = state.depth)
    : Calm work where
  cause state limit := by
    rw [succeeds]
    exact fun same => nomatch same
  depth state := by
    rw [succeeds]
    exact depth state

theorem nothing : Calm (pure ()) :=
  .of_ok (fun state => pure_apply () state) fun _ => rfl

theorem fail {error : Error} (other : ∀ limit, error ≠ .recursionLimit limit)
    : Calm (throw error : Render α) where
  cause _ limit same := other limit (Except.error.inj same)
  depth _ := rfl

theorem bind {first : Render α} {next : α → Render β} (start : Calm first)
    (rest : ∀ value, Calm (next value))
    : Calm (first >>= next) where
  cause state limit := by
    rw [bind_apply]
    cases started : first state with
    | mk result reached =>
        cases result with
        | ok value => exact (rest value).cause reached limit
        | error error =>
            have calm := start.cause state limit
            rw [started] at calm
            exact fun same => calm (congrArg Except.error (Except.error.inj same))
  depth state := by
    have before := start.depth state
    rw [bind_apply]
    cases started : first state with
    | mk result reached =>
        rw [started] at before
        cases result with
        | ok value => exact ((rest value).depth reached).trans before
        | error error => exact before

theorem write (piece : Piece) : Calm (write piece) :=
  .of_ok (write_apply piece) fun _ => rfl

theorem pushSelection (value : Value) : Calm (pushSelection value) :=
  .of_ok (modify_apply _) fun _ => rfl

theorem popSelection : Calm popSelection :=
  .of_ok (modify_apply _) fun _ => rfl

theorem pushProvider (context : String) (value : Value) : Calm (pushProvider context value) :=
  .of_ok (modify_apply _) fun _ => rfl

theorem popProvider : Calm popProvider :=
  .of_ok (modify_apply _) fun _ => rfl

theorem writeAll (pieces : List Piece) : Calm (writeAll pieces) :=
  .of_ok (writeAll_apply pieces) fun _ => rfl

theorem writeText (options : RenderOptions) (escaped : String)
    : Calm (writeText options escaped) :=
  .of_ok (writeText_apply options escaped) fun _ => rfl

theorem writeRootMarker (options : RenderOptions) : Calm (writeRootMarker options) :=
  .of_ok (writeRootMarker_apply options) fun _ => rfl

theorem renderText (text : String) : Calm (renderText cx text) := by
  simp only [Render.renderText]
  split
  · exact nothing
  · exact writeText _ _

theorem writeProps (props : List (String × Value)) (custom : Bool)
    : Calm (writeOrFail (WrittenAttribute.ofProps props custom)) := by
  cases written : WrittenAttribute.ofProps props custom with
  | ok pieces => exact writeAll pieces
  | error error =>
      obtain rfl := WrittenAttribute.ofProps_error written
      exact fail (by simp)

theorem writeStyle (value : Value)
    : Calm (writeOrFail ((WrittenAttribute.ofStyle? value).map Option.toList)) := by
  cases written : WrittenAttribute.ofStyle? value with
  | ok piece => exact writeAll piece.toList
  | error error =>
      obtain rfl := WrittenAttribute.ofStyle?_error written
      exact fail (by simp)

-----------------------------------------------------------------------------------------
-- Elements
-----------------------------------------------------------------------------------------

variable {children : Render Unit}

theorem writeOpenTag (tag : String) (props : Props) : Calm (writeOpenTag cx tag props) :=
  (write _).bind fun _ => (writeProps _ _).bind fun _ => writeRootMarker _

theorem renderChild (leadNewline : Bool) (value : Value) (calm : Calm children)
    : Calm (renderChild leadNewline value children) := by
  simp only [Render.renderChild]
  split
  · exact (write _).bind fun _ => calm
  · exact nothing.bind fun _ => calm

theorem renderContent (tag : String) (content : Content) (calm : Calm children)
    : Calm (renderContent tag content children) := by
  cases content with
  | nothing => exact nothing
  | innerHtml markup =>
      simp only [Render.renderContent]
      split
      · exact (write _).bind fun _ => write _
      · exact nothing.bind fun _ => write _
  | children value => exact calm.renderChild _ value

theorem failContent {props : Props} {error : Error} (failed : Content.ofProps props = .error error)
    : Calm (throw error : Render α) := by
  have shape (inner : Value) (error : Error) (failed : Content.innerHtml? inner = .error error)
      : error = .innerHtmlShape := by
    simp only [Content.innerHtml?] at failed
    split at failed
    · cases failed
    · exact (Except.error.inj failed).symm
  have known : error = .childrenConflict ∨ error = .innerHtmlShape := by
    simp only [Content.ofProps] at failed
    split at failed
    · exact .inl (Except.error.inj failed).symm
    · cases failed
    next inner _ _ =>
        split at failed
        next same => exact .inr (shape inner _ (Except.error.inj failed ▸ same))
        all_goals cases failed
    · cases failed
  refine fail fun limit => ?_
  rcases known with rfl | rfl <;> simp

theorem renderElement (tag : String) (props : Props) (calm : Calm children)
    : Calm (renderElement cx tag props children) := by
  simp only [Render.renderElement]
  cases refused : Html.isVoid tag && hasContent props with
  | true => exact fail (by simp)
  | false =>
      simp only [Bool.false_eq_true, if_false]
      cases given : Content.ofProps props with
      | error error => exact failContent given
      | ok content =>
          refine (writeOpenTag tag props).bind fun _ => ?_
          cases isVoid : Html.isVoid tag with
          | true => exact write _
          | false =>
              exact (write _).bind fun _ => (calm.renderContent tag content).bind fun _ => write _

theorem renderControl (tag : String) (props : Props) : Calm (renderControl cx tag props) := by
  simp only [Render.renderControl]
  split
  · exact renderElement tag _ nothing
  split
  · exact renderElement tag _ (renderText _)
  · have reads : Calm (get : Render RenderState) := ⟨fun _ _ => nofun, fun _ => rfl⟩
    exact reads.bind fun state => renderElement tag _ (renderText _)

-----------------------------------------------------------------------------------------
-- Calls
-----------------------------------------------------------------------------------------

theorem callNode (invoke : Invoke) (slots : Slots) (branch : Branch) {call : Call}
    (noContent : ∀ id, call ≠ .content id) (noComponent : ∀ id, call ≠ .component id)
    : Calm (Slots.callNode cx invoke slots branch call) := by
  cases call with
  | content id => exact absurd rfl (noContent id)
  | component id => exact absurd rfl (noComponent id)
  | spread => exact writeProps _ _
  | dynamicName | «attribute» =>
      simp only [Slots.callNode]
      repeat' split
      all_goals first | exact nothing | exact writeProps _ _
  | host =>
      simp only [Slots.callNode]
      split
      · exact renderControl _ _
      · exact nothing
  | selectOpen => exact (writeOpenTag _ _).bind fun _ => pushSelection _
  | _ => exact nothing

/-- A call that concerns neither a value nor a component is calm. -/
theorem runCall (invoke : Invoke) (slots : Slots) {call : Call}
    (noChild : ∀ slot leadNewline, call ≠ .child slot leadNewline)
    (noContent : ∀ id, call ≠ .content id) (noComponent : ∀ id, call ≠ .component id)
    : Calm (Slots.runCall cx invoke slots call) := by
  have byId (id : Nat) : Calm (Slots.callNodeById cx invoke slots id call) := by
    simp only [Slots.callNodeById]
    split
    · exact callNode invoke slots _ noContent noComponent
    · exact nothing
  cases call with
  | child slot leadNewline => exact absurd rfl (noChild slot leadNewline)
  | text => exact writeText _ _
  | value => exact writeAll _
  | style => exact writeStyle _
  | rootMarker => exact writeRootMarker _
  | selectClose => exact popSelection
  | _ => exact byId _

end Calm

end TaggedMarkup.Render
