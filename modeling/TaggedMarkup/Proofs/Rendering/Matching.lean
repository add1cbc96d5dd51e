import TaggedMarkup.Render.State
import TaggedMarkup.Proofs.Outcomes

/-! How two moves of renders are compared. They may do the same in two ways, or they may take
states that correspond to states that correspond again. Both comparisons are kept when moves
are put in a row.
-/

namespace TaggedMarkup.Render

open Stateful

-----------------------------------------------------------------------------------------
-- Moves that end alike
-----------------------------------------------------------------------------------------

/-- Two moves leave the same state behind unless both fail, and then with the same error. -/
def EndsAlike (first second : Render Unit) : Prop :=
  ∀ state,
    first state = second state
    ∨ ∃ error reached reached',
        first state = (.error error, reached) ∧ second state = (.error error, reached')

namespace EndsAlike

theorem refl (move : Render Unit) : EndsAlike move move :=
  fun _ => .inl rfl

theorem symm {first second : Render Unit} (alike : EndsAlike first second)
    : EndsAlike second first := by
  intro state
  rcases alike state with same | ⟨error, reached, reached', failed, failed'⟩
  · exact .inl same.symm
  · exact .inr ⟨error, reached', reached, failed', failed⟩

/-- A move that ends as another one does ends as every move does that ends as the other one. -/
theorem trans {first second third : Render Unit} (left : EndsAlike first second)
    (right : EndsAlike second third)
    : EndsAlike first third := by
  intro state
  rcases left state with same | ⟨error, reached, reached', failed, failed'⟩
  · rw [same]
    exact right state
  · refine .inr ?_
    rcases right state with same | ⟨error', reached'', reached''', again, again'⟩
    · exact ⟨error, reached, reached', failed, same ▸ failed'⟩
    · obtain ⟨isError, -⟩ := Prod.mk.inj (failed'.symm.trans again)
      obtain rfl := Except.error.inj isError
      exact ⟨error, reached, reached''', failed, again'⟩

/-- Moves in a row end alike when each of them does. -/
theorem andThen {first first' second second' : Render Unit} (start : EndsAlike first first')
    (rest : EndsAlike second second')
    : EndsAlike (first >>= fun _ => second) (first' >>= fun _ => second') := by
  intro state
  simp only [bind_apply]
  rcases start state with same | ⟨error, reached, reached', failed, failed'⟩
  · rw [same]
    cases first' state with
    | mk result reached =>
        cases result with
        | error error => exact .inl rfl
        | ok => exact rest reached
  · refine .inr ⟨error, reached, reached', ?_, ?_⟩
    · rw [failed]
    · rw [failed']

end EndsAlike

-----------------------------------------------------------------------------------------
-- Moves that match
-----------------------------------------------------------------------------------------

/-- From states that correspond, the second move succeeds whenever the first does, and ends in a
state that corresponds to the one of the first. `failures` says whether it also fails whenever
the first does, with the same error.
-/
def Matches (failures : Prop) (before after : RenderState → RenderState → Prop)
    (first second : Render Unit)
    : Prop :=
  ∀ state other,
    before state other
    → (∀ reached,
          first state = (.ok (), reached)
          → ∃ reached', second other = (.ok (), reached') ∧ after reached reached')
      ∧ (failures
          → ∀ error reached,
              first state = (.error error, reached)
              → ∃ reached', second other = (.error error, reached'))

namespace Matches

variable {failures : Prop} {before middle after : RenderState → RenderState → Prop}
  {first first' second second' : Render Unit}

/-- Two moves that succeed from all states that correspond. -/
theorem of_ok {change change' : RenderState → RenderState}
    (left : ∀ state, first state = (.ok (), change state))
    (right : ∀ state, second state = (.ok (), change' state))
    (keeps : ∀ state other, before state other → after (change state) (change' other))
    : Matches failures before after first second := by
  intro state other corresponds
  refine ⟨?_, ?_⟩
  · intro reached ends
    obtain ⟨-, rfl⟩ := Prod.mk.inj ((left state).symm.trans ends)
    exact ⟨_, right other, keeps state other corresponds⟩
  · intro _ error reached ends
    cases (Prod.mk.inj ((left state).symm.trans ends)).1

theorem nothing : Matches failures before before (pure ()) (pure ()) :=
  of_ok (fun _ => rfl) (fun _ => rfl) fun _ _ corresponds => corresponds

theorem fail (error : Error) : Matches failures before after (throw error) (throw error) := by
  intro state other _
  refine ⟨?_, ?_⟩
  · intro reached ends
    cases (Prod.mk.inj ends).1
  · intro _ error' reached ends
    obtain ⟨same, -⟩ := Prod.mk.inj ends
    obtain rfl := Except.error.inj same
    exact ⟨other, rfl⟩

/-- A move that fails in the end matches every move when failures do not count. -/
theorem doomed (error : Error)
    : Matches False before after (first >>= fun _ => throw error) second := by
  intro state other _
  refine ⟨?_, False.elim⟩
  intro reached ends
  simp only [bind_apply, throw_apply] at ends
  split at ends <;> exact nomatch (Prod.mk.inj ends).1

/-- Moves in a row match when the states between them correspond. -/
theorem andThen (start : Matches failures before middle first first')
    (rest : Matches failures middle after second second')
    : Matches failures before after (first >>= fun _ => second)
        (first' >>= fun _ => second') := by
  intro state other corresponds
  obtain ⟨succeeds, fails⟩ := start state other corresponds
  simp only [bind_apply]
  cases isFirst : first state with
  | mk result reached =>
      cases result with
      | ok =>
          obtain ⟨reached', isSecond, between⟩ := succeeds reached isFirst
          simpa only [isSecond] using rest reached reached' between
      | error error =>
          refine ⟨?_, ?_⟩
          · intro _ ends
            cases (Prod.mk.inj ends).1
          · intro wanted error' _ ends
            obtain ⟨same, -⟩ := Prod.mk.inj ends
            obtain rfl := Except.error.inj same
            obtain ⟨reached', failed⟩ := fails wanted error reached isFirst
            exact ⟨reached', by simp only [failed]⟩

/-- Fewer states may correspond before the moves, and more after them. -/
theorem weaken {before' after' : RenderState → RenderState → Prop}
    (matching : Matches failures before after first second)
    (narrower : ∀ state other, before' state other → before state other)
    (wider : ∀ state other, after state other → after' state other)
    : Matches failures before' after' first second := by
  intro state other corresponds
  obtain ⟨succeeds, fails⟩ := matching state other (narrower state other corresponds)
  refine ⟨?_, fails⟩
  intro reached ends
  obtain ⟨reached', isSecond, corresponds'⟩ := succeeds reached ends
  exact ⟨reached', isSecond, wider reached reached' corresponds'⟩

/-- The first move may be done in another way. -/
theorem left (alike : EndsAlike first' first)
    (matching : Matches failures before after first second)
    : Matches failures before after first' second := by
  intro state other corresponds
  obtain ⟨succeeds, fails⟩ := matching state other corresponds
  rcases alike state with same | ⟨error, reached, reached', failed, failed'⟩
  · rw [same]
    exact ⟨succeeds, fails⟩
  · refine ⟨?_, ?_⟩
    · intro _ ends
      cases failed.symm.trans ends
    · intro wanted error' _ ends
      obtain ⟨same, -⟩ := Prod.mk.inj (failed.symm.trans ends)
      obtain rfl := Except.error.inj same
      exact fails wanted error reached' failed'

/-- The second move may be done in another way. -/
theorem right (alike : EndsAlike second second')
    (matching : Matches failures before after first second)
    : Matches failures before after first second' := by
  intro state other corresponds
  obtain ⟨succeeds, fails⟩ := matching state other corresponds
  rcases alike other with same | ⟨error, reached, reached', failed, failed'⟩
  · rw [← same]
    exact ⟨succeeds, fails⟩
  · refine ⟨?_, ?_⟩
    · intro _ ends
      obtain ⟨_, isSecond, -⟩ := succeeds _ ends
      cases failed.symm.trans isSecond
    · intro wanted error' reached'' ends
      obtain ⟨_, isSecond⟩ := fails wanted error' reached'' ends
      obtain ⟨same, -⟩ := Prod.mk.inj (failed.symm.trans isSecond)
      obtain rfl := Except.error.inj same
      exact ⟨reached', failed'⟩

end Matches

end TaggedMarkup.Render
