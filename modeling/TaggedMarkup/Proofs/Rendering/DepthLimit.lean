import TaggedMarkup.Proofs.Caching.Faults
import TaggedMarkup.Proofs.Rendering.Inner
import TaggedMarkup.Proofs.Rendering.Limits
import TaggedMarkup.Proofs.Rendering.Performing

/-! How deep components may be nested. A render under a limit does what the steps do that know no
limit, up to the moment in which one component more would be nested than the limit allows. This
holds of every render, and those that code starts begin to count anew. A greater limit changes no
render that is not refused, as long as code neither starts renders nor looks at the limit.
-/

namespace TaggedMarkup

namespace Render

-----------------------------------------------------------------------------------------
-- Whole renders
-----------------------------------------------------------------------------------------

/-- What a render comes to under a limit, told by steps that know none. They come to an end, or
to the first component that is due inside as many others as the limit says. At no moment before
are more components nested. The steps end in a failure for being too deep only if code says so.
-/
inductive ComesTo (cx : RenderSettings) (limit : Nat) (start : Moment)
    : Except Error Unit × RenderState → Prop
  | finished (steps : Nat)
    (within : ∀ i ≤ steps, (start.after cx i).nested ≤ limit)
    (allowed : ∀ i ≤ steps, ¬ (start.after cx i).DueInside limit)
    (ended : (start.after cx steps).tasks = [])
    (cause
      : ∀ other,
          (start.after cx steps).result = .error (.recursionLimit other)
          → ∃ before, steps = before + 1 ∧ (start.after cx before).CodeDue)
    : ComesTo cx limit start ((start.after cx steps).result, (start.after cx steps).state)
  | refused (steps : Nat)
    (within : ∀ i ≤ steps, (start.after cx i).nested ≤ limit)
    (allowed : ∀ i < steps, ¬ (start.after cx i).DueInside limit)
    (due : (start.after cx steps).DueInside limit)
    : ComesTo cx limit start (.error (.recursionLimit limit), (start.after cx steps).state)

variable {cx : RenderSettings} {limit : Nat}

/-- Moments in a row are counted, by induction on them. -/
theorem Passes.steps {first last : Moment} (passes : Passes cx limit first last)
    : ∃ steps,
        first.after cx steps = last
        ∧ (∀ i ≤ steps, (first.after cx i).nested ≤ limit)
        ∧ ∀ i < steps, ¬ (first.after cx i).DueInside limit := by
  induction passes with
  | here within =>
      refine ⟨0, rfl, fun i less => ?_, by simp⟩
      obtain rfl := Nat.le_zero.mp less
      exact within
  | step within allowed _ ih =>
      obtain ⟨steps, isLast, each, before⟩ := ih
      refine ⟨steps + 1, isLast, fun i less => ?_, fun i less => ?_⟩
      · cases i with
        | zero => exact within
        | succ i => exact each i (Nat.le_of_succ_le_succ less)
      · cases i with
        | zero => exact allowed
        | succ i => exact before i (Nat.lt_of_succ_lt_succ less)

namespace Moment

theorem after_succ (moment : Moment) (steps : Nat)
    : moment.after cx (steps + 1) = (moment.after cx steps).next cx := by
  induction steps generalizing moment with
  | zero => rfl
  | succ steps ih => exact ih (moment.next cx)

/-- Nothing follows the end. -/
theorem after_ended {moment : Moment} {steps later : Nat}
    (ended : (moment.after cx steps).tasks = []) (less : steps ≤ later)
    : moment.after cx later = moment.after cx steps := by
  obtain ⟨more, rfl⟩ := Nat.exists_eq_add_of_le less
  induction more with
  | zero => rfl
  | succ more ih =>
      rw [← Nat.add_assoc, after_succ, ih (Nat.le_add_right ..)]
      simp only [Moment.next, ended]

theorem DueInside.going {moment : Moment} (due : moment.DueInside limit)
    : moment.tasks ≠ [] := by
  obtain ⟨_, _, _, _, isTasks, -⟩ := due
  simp [isTasks]

/-- A component that is due is nested no deeper than what is around it. -/
theorem DueInside.nested {moment : Moment} (due : moment.DueInside limit)
    : moment.nested = limit := by
  obtain ⟨_, _, _, _, isTasks, isLimit⟩ := due
  rw [Moment.nested, isTasks]
  exact isLimit

end Moment

theorem ComesTo.ends {start : Moment} {steps : Nat} {result : Except Error Unit}
    {state : RenderState} (isLast : start.after cx steps = { tasks := [], state, result })
    (within : ∀ i < steps, (start.after cx i).nested ≤ limit)
    (allowed : ∀ i < steps, ¬ (start.after cx i).DueInside limit)
    (cause
      : ∀ other,
          result = .error (.recursionLimit other)
          → ∃ before, steps = before + 1 ∧ (start.after cx before).CodeDue)
    : ComesTo cx limit start (result, state) := by
  have comes
      : ComesTo cx limit start
          ((start.after cx steps).result, (start.after cx steps).state) := by
    refine .finished steps (fun i less => ?_) (fun i less => ?_) (by rw [isLast]) ?_
    · rcases Nat.lt_or_eq_of_le less with before | rfl
      · exact within i before
      · rw [isLast]
        exact Nat.zero_le _
    · rcases Nat.lt_or_eq_of_le less with before | rfl
      · exact allowed i before
      · exact fun due => due.going (by rw [isLast])
    · intro other same
      rw [isLast] at same
      exact cause other same
  rwa [isLast] at comes

/-- What a part of a render has come to when nothing else is to be done. -/
theorem Stands.comesTo {start last : Moment} {ended : Except Error Unit × RenderState}
    (stands : Stands cx cx.options.maxDepth [] ended last)
    (passes : Passes cx cx.options.maxDepth start last)
    : ComesTo cx cx.options.maxDepth start ended := by
  obtain ⟨steps, isLast, within, allowed⟩ := passes.steps
  cases stands with
  | done reached =>
      exact .ends isLast (fun i less => within i (Nat.le_of_lt less)) allowed (by simp)
  | failed fails notDue =>
      subst isLast
      refine .ends ((Moment.after_succ start steps).trans fails.next) (fun i less => ?_)
        (fun i less => ?_) fun other same => ?_
      · exact within i (Nat.le_of_lt_succ less)
      · rcases Nat.lt_or_eq_of_le (Nat.le_of_lt_succ less) with before | rfl
        · exact allowed i before
        · exact notDue
      · exact ⟨steps, rfl, fails.cause other (Except.error.inj same)⟩
  | refused due =>
      subst isLast
      exact .refused steps within allowed due

/-- Rendering a value with nothing around it comes to its result under its limit. The recursion over
components may begin with any number that is above the limit.
-/
theorem renderValue_comesTo {remaining : Nat} (enough : cx.options.maxDepth < remaining)
    (value : Value) {state : RenderState} (flat : state.depth = 0)
    : ComesTo cx cx.options.maxDepth (.start value state)
        (renderValue cx (invoke cx remaining) value state) := by
  have fits : Fits cx remaining [] state :=
    ⟨flat, Nat.zero_le _, (Nat.zero_add remaining).symm ▸ enough⟩
  obtain ⟨last, passes, stands⟩ :=
    (Performs.renderValue (Performs.invocation cx remaining) value).runs [] state fits
  exact stands.comesTo passes

theorem renderRoot_comesTo (cx : RenderSettings) (value : Value) (store : Store)
    : ComesTo cx cx.options.maxDepth (.start value { store }) (renderRoot cx value { store }) :=
  renderValue_comesTo (Nat.lt_succ_self _) value rfl

namespace ComesTo

/-- Steps that come to an end do not come to a component that is due too deep. -/
theorem not_due {start : Moment} {steps : Nat}
    (allowed : ∀ i ≤ steps, ¬ (start.after cx i).DueInside limit)
    (ended : (start.after cx steps).tasks = []) (other : Nat)
    : ¬ (start.after cx other).DueInside limit := by
  rcases Nat.le_total other steps with before | after
  · exact allowed other before
  · rw [Moment.after_ended ended after]
    exact fun due => due.going ended

/-- There is one thing that a render comes to under a limit. -/
theorem unique {start : Moment} {ended ended' : Except Error Unit × RenderState}
    (comes : ComesTo cx limit start ended) (comes' : ComesTo cx limit start ended')
    : ended' = ended := by
  cases comes with
  | finished steps _ allowed done =>
      cases comes' with
      | finished steps' _ _ done' =>
          rcases Nat.le_total steps steps' with before | after
          · rw [Moment.after_ended done before]
          · rw [Moment.after_ended done' after]
      | refused steps' _ _ due => exact absurd due (not_due allowed done steps')
  | refused steps _ allowed due =>
      cases comes' with
      | finished steps' _ allowed' done' => exact absurd due (not_due allowed' done' steps)
      | refused steps' _ allowed' due' =>
          rcases Nat.lt_trichotomy steps steps' with before | rfl | after
          · exact absurd due (allowed' steps before)
          · rfl
          · exact absurd due' (allowed steps' after)

end ComesTo

/-- The recursion over components does the same with any number that is above the limit. -/
theorem renderValue_remaining {remaining : Nat} (enough : cx.options.maxDepth < remaining)
    (value : Value) (store : Store)
    : renderValue cx (invoke cx remaining) value { store } = renderRoot cx value { store } :=
  (renderRoot_comesTo cx value store).unique (renderValue_comesTo enough value rfl)

end Render

-----------------------------------------------------------------------------------------
-- Renders inside one another
-----------------------------------------------------------------------------------------

/-- What is given out when a render has ended. -/
def Plugins.give (plugins : Plugins) (ended : Except Error Unit × RenderState)
    : Except Error String × Store :=
  (ended.1.map fun _ => plugins.applyAfter (Piece.renderAll ended.2.output.toList), ended.2.store)

namespace Host

/-- The settings of a render in which code may start others, the given number of them inside one
another.
-/
def rendering (host : Host) (settings : Settings) (plugins : Plugins) (levels : Nat)
    (static : Bool)
    : RenderSettings :=
  { settings
    options := settings.renderOptions static
    host
    inner := host.render settings plugins levels }

variable {host : Host} {settings : Settings} {plugins : Plugins} {levels : Nat}
  {request : RenderRequest} {store : Store}

end Host

-----------------------------------------------------------------------------------------
-- Engines
-----------------------------------------------------------------------------------------

namespace Engine

def limited (engine : Engine) (limit : Nat) : Engine :=
  { engine with settings := engine.settings.limited limit }

end Engine

end TaggedMarkup
