import TaggedMarkup.Render.Value
import TaggedMarkup.Proofs.Outcomes

/-! What each writing step of a render does to the state, in closed form. None of the steps
here fails, reads the store or changes it.
-/

namespace TaggedMarkup.Render

open Stateful

theorem write_apply (piece : Piece) (state : RenderState)
    : write piece state = (.ok (), { state with output := state.output.push piece }) :=
  rfl

/-- What is seen of the state that a render reaches is seen of some state. -/
theorem exists_of_apply {move : Render Unit} {before : RenderState} {β : Type}
    (see : RenderState → β) {seen : β}
    (sees : (move before).1 = .ok () ∧ see (move before).2 = seen)
    : ∃ reached, move before = (.ok (), reached) ∧ see reached = seen :=
  ⟨(move before).2, Prod.ext sees.1 rfl, sees.2⟩

/-- Writing several pieces puts them behind the output in their order. -/
theorem writeAll_apply (pieces : List Piece) (state : RenderState)
    : writeAll pieces state
      = (.ok (), { state with output := state.output ++ pieces.toArray }) := by
  induction pieces generalizing state with
  | nil => simp [writeAll, pure_apply]
  | cons piece rest ih =>
      simp only [writeAll, bind_apply, write_apply, ih]
      simp

/-- A text after a text is kept apart from it unless the markup is static. -/
theorem writeText_apply (options : RenderOptions) (escaped : String) (state : RenderState)
    : writeText options escaped state
      = (.ok (),
          { state with
            output :=
              if endsInText state.output && !options.staticMarkup then
                (state.output.push .separator).push (.text escaped)
              else
                state.output.push (.text escaped) }) := by
  simp only [writeText, bind_apply, get_apply]
  split
  next holds => simp [bind_apply, write_apply]
  next fails => simp [write_apply]

/-- The mark is due once, and it is written if the options ask for it. -/
theorem writeRootMarker_apply (options : RenderOptions) (state : RenderState)
    : writeRootMarker options state
      = (.ok (),
          { state with
            rootMarked := true
            output :=
              if !state.rootMarked && options.rootMarker && !options.staticMarkup then
                state.output.push .rootMarker
              else
                state.output }) := by
  obtain ⟨store, output, marked, selections, providers, depth⟩ := state
  simp only [writeRootMarker, bind_apply, get_apply]
  cases marked with
  | true => simp [pure_apply]
  | false =>
      simp only [Bool.false_eq_true, if_false, bind_apply, set_apply, Bool.not_false,
        Bool.true_and]
      split
      next => simp [write_apply]
      next => simp [pure_apply]

-----------------------------------------------------------------------------------------
-- Nesting
-----------------------------------------------------------------------------------------

/-- A component is refused inside as many others as the options allow. -/
theorem enter_apply (options : RenderOptions) (state : RenderState)
    : enter options state
      = if options.maxDepth ≤ state.depth then
          (.error (.recursionLimit options.maxDepth), state)
        else
          (.ok (), state.deeper) := by
  simp only [enter, bind_apply, get_apply]
  split <;> rfl

-----------------------------------------------------------------------------------------
-- Contexts
-----------------------------------------------------------------------------------------

/-- Putting a provider in front provides its value. -/
theorem contextValue_cons (host : Host) (providers : List (String × Value)) (context : String)
    (value : Value)
    : contextValue host ((context, value) :: providers)
      = fun other => if other = context then value else contextValue host providers other := by
  funext other
  by_cases same : other = context
  · simp [contextValue, same]
  · simp [contextValue, List.lookup_cons, same, beq_eq_false_iff_ne.mpr same]

theorem contextValue_forall {good : Value → Prop} {host : Host}
    {providers : List (String × Value)} (provided : ∀ provider ∈ providers, good provider.2)
    (defaults : ∀ name, good (host.contextDefault name)) (name : String)
    : good (contextValue host providers name) := by
  simp only [contextValue]
  cases found : providers.lookup name with
  | none => exact defaults name
  | some value =>
      obtain ⟨before, after, isProviders, -⟩ := List.lookup_eq_some_iff.mp found
      exact provided (name, value) (by simp [isProviders])

end TaggedMarkup.Render
