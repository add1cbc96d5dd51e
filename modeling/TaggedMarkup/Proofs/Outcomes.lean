import TaggedMarkup.Error

/-! Work ends in a result or a failure. Work on a state does so in a changed state, and the rules
here say what each way of building such work does to the state it starts in.
-/

namespace TaggedMarkup

/-- Work in two parts that ends in a result has a result of its first part. -/
theorem exists_of_bind {ε α β : Type} {first : Except ε α} {next : α → Except ε β} {result : β}
    (ended : (first >>= next) = .ok result)
    : ∃ value, first = .ok value ∧ next value = .ok result := by
  cases first with
  | error error => cases ended
  | ok value => exact ⟨value, rfl, ended⟩

/-- What is seen of a result is seen of some result. -/
theorem exists_of_map {ε α β : Type} {outcome : Except ε α} {see : α → β} {seen : β}
    (sees : outcome.map see = .ok seen)
    : ∃ value, outcome = .ok value ∧ see value = seen := by
  cases outcome with
  | error error => cases sees
  | ok value => exact ⟨value, rfl, Except.ok.inj sees⟩

theorem exists_of_isOk {ε α : Type} {outcome : Except ε α} (succeeds : outcome.isOk = true)
    : ∃ value, outcome = .ok value := by
  cases outcome with
  | error error => cases succeeds
  | ok value => exact ⟨value, rfl⟩

namespace Stateful

variable {σ α β : Type}

/-- Work goes on from the state that the first part reaches, unless the first part fails. -/
theorem bind_apply (first : ExceptT Error (StateM σ) α)
    (next : α → ExceptT Error (StateM σ) β) (state : σ)
    : (first >>= next) state
      = match first state with
        | (.ok value, reached) => next value reached
        | (.error error, reached) => (.error error, reached) := by
  simp only [bind, ExceptT.bind, ExceptT.mk, StateT.bind, ExceptT.bindCont]
  cases first state with
  | mk result reached => cases result <;> rfl

/-- Work that is done when it begins changes nothing. -/
theorem pure_apply (value : α) (state : σ)
    : (pure value : ExceptT Error (StateM σ) α) state = (.ok value, state) :=
  rfl

theorem throw_apply (error : Error) (state : σ)
    : (throw error : ExceptT Error (StateM σ) α) state = (.error error, state) :=
  rfl

theorem get_apply (state : σ)
    : (get : ExceptT Error (StateM σ) σ) state = (.ok state, state) :=
  rfl

theorem set_apply (written state : σ)
    : (set written : ExceptT Error (StateM σ) PUnit) state = (.ok ⟨⟩, written) :=
  rfl

theorem modify_apply (change : σ → σ) (state : σ)
    : (modify change : ExceptT Error (StateM σ) PUnit) state = (.ok ⟨⟩, change state) :=
  rfl

end Stateful

end TaggedMarkup
