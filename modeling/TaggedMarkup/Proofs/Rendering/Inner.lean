import TaggedMarkup.Engine
import TaggedMarkup.Proofs.Rendering.Lockstep

/-! A whole render is work on the store, and so is every render that code starts in it. What the
requests of code keep is therefore kept by renders inside one another, however many there are. The
induction is on their number.
-/

namespace TaggedMarkup

open Stateful

/-- What has been written is given out if the render succeeds. -/
theorem Render.give_apply (cx : RenderSettings) (plugins : Plugins) (value : Value)
    (store : Store)
    : give cx plugins value store
      = match renderRoot cx value { store } with
        | (.ok (), state) =>
            (.ok (plugins.applyAfter (Piece.renderAll state.output.toList)), state.store)
        | (.error error, state) => (.error error, state.store) := by
  simp only [give, ExceptT.run]
  cases renderRoot cx value { store } with
  | mk result state => cases result <;> rfl

namespace Store

variable {settings : Settings} {known : Template → Prop} {related : Store → Store → Prop}

/-- What a render is to render is found alike from related stores. -/
theorem Answering.subject (answering : Store.Answering settings (fun _ => True) known related)
    (plugins : Plugins) {request : RenderRequest} (within : request.Within (fun _ => True) known)
    {store other : Store} (kept : related store other)
    : Work.Alike related (fun _ => True) (Work.subject settings plugins request)
        (Work.subject settings plugins request) store other := by
  cases request with
  | template static used values => exact answering.html within.1 (fun _ _ => trivial) kept
  | value static value => exact .pure trivial kept
  | fragments fragments values =>
      exact (answering.fragments kept).bind fun _ _ _ _ kept => .pure trivial kept

/-- A whole render goes alike from related stores. -/
theorem Answering.give {cx : RenderSettings}
    (answering : Store.Answering cx.settings (fun _ => True) known related)
    (renders : Store.Renders cx.inner (fun _ => True) known related)
    (keeps : cx.host.Keeps (fun _ => True) known) (plugins : Plugins) (value : Value)
    {store other : Store} (kept : related store other)
    : Work.Alike related (fun _ => True) (Render.give cx plugins value)
        (Render.give cx plugins value) store other := by
  obtain ⟨result, reached, store', left, right, kept', -, -, -⟩ :=
    Render.Lockstep.renderRoot answering renders keeps value { store } other kept
      (RenderState.provides_true _)
  have right : Render.renderRoot cx value { store := other }
      = (result, { reached with store := store' }) := right
  simp only [Work.Alike, Render.give_apply, left, right]
  cases result with
  | ok => exact ⟨_, _, _, rfl, rfl, kept', by simp⟩
  | error error => exact ⟨_, _, _, rfl, rfl, kept', by simp⟩

/-- Renders inside one another go alike from related stores, by induction on how many there may
be.
-/
theorem Answering.renders (answering : Store.Answering settings (fun _ => True) known related)
    {host : Host} (keeps : host.Keeps (fun _ => True) known) (plugins : Plugins) (levels : Nat)
    : Store.Renders (host.render settings plugins levels) (fun _ => True) known related := by
  induction levels with
  | zero => exact fun _ _ _ _ kept => ⟨.error _, _, _, rfl, rfl, kept, by simp⟩
  | succ levels ih =>
      intro request store other within kept
      refine (answering.subject plugins within kept).bind fun value _ _ _ kept => ?_
      exact @Answering.give _ _ ⟨settings, _, host, _⟩ answering ih keeps plugins value _ _ kept

theorem Renders.weaken {inner : RenderRequest → Work String} {good : Value → Prop}
    (renders : Store.Renders inner (fun _ => True) known related)
    : Store.Renders inner good known related :=
  fun _ _ _ within kept => renders within.values kept

end Store

namespace Engine

/-- A render of a value begins with the value. -/
theorem renderValue_eq (engine : Engine) (host : Host) (static : Bool) (value : Value)
    : engine.renderValue host static value
      = engine.doWork (Render.give (engine.rendering host static) engine.plugins value) :=
  rfl

/-- What a successful render gives out is what it has written. -/
theorem renderValue_ok {engine : Engine} {host : Host} {static : Bool} {value : Value}
    {markup : String} (given : (engine.renderValue host static value).1 = .ok markup)
    : ∃ state,
        Render.renderRoot (engine.rendering host static) value { store := engine.store }
          = (.ok (), state)
        ∧ engine.plugins.applyAfter (Piece.renderAll state.output.toList) = markup := by
  simp only [renderValue_eq, doWork, ExceptT.run, Render.give_apply] at given
  cases rendered
      : Render.renderRoot (engine.rendering host static) value { store := engine.store } with
  | mk result state =>
      rw [rendered] at given
      cases result with
      | error error => cases given
      | ok => exact ⟨state, rfl, Except.ok.inj given⟩

/-- A render finds what it is to render, and then renders it. -/
theorem perform_eq (engine : Engine) (host : Host) (request : RenderRequest)
    : engine.perform host request
      = match engine.doWork (Work.subject engine.settings engine.plugins request) with
        | (.error error, bound) => (.error error, bound)
        | (.ok value, bound) => bound.renderValue host request.isStatic value := by
  simp only [perform, Host.render, doWork, ExceptT.run, bind_apply]
  cases Work.subject engine.settings engine.plugins request engine.store with
  | mk result store => cases result <;> rfl

/-- A render of a template binds it to the values first. -/
theorem render_eq (engine : Engine) (host : Host) (static : Bool) (template : Template)
    (values : List Value)
    : engine.render host static template values
      = match engine.doWork
            (Work.markup engine.settings template (engine.plugins.applyBefore values)) with
        | (.error error, bound) => (.error error, bound)
        | (.ok markup, bound) => bound.renderValue host static (.markup markup) := by
  simp only [render, perform_eq, Work.subject, Work.html, doWork, ExceptT.run, bind_apply]
  cases Work.markup engine.settings template (engine.plugins.applyBefore values) engine.store with
  | mk result store => cases result <;> rfl

/-- A render of fragments binds them to the values first. -/
theorem renderFragments_eq (engine : Engine) (host : Host) (fragments : List String)
    (values : List Value)
    : engine.renderFragments host fragments values
      = match engine.doWork (Work.markupOfFragments engine.settings fragments
            (engine.plugins.applyBefore values)) with
        | (.error error, bound) => (.error error, bound)
        | (.ok markup, bound) => bound.renderValue host false (.markup markup) := by
  simp only [renderFragments, perform_eq, Work.subject, doWork, ExceptT.run, bind_apply]
  cases Work.markupOfFragments engine.settings fragments (engine.plugins.applyBefore values)
      engine.store with
  | mk result store => cases result <;> rfl

section

variable {engine : Engine} {host : Host} {values : List Value} {markup : String}

theorem doWork_ok {α : Type} {work : Work α} {result : α} {bound : Engine}
    (done : engine.doWork work = (.ok result, bound))
    : ∃ store, work engine.store = (.ok result, store) ∧ bound = { engine with store } := by
  obtain ⟨left, right⟩ := Prod.mk.inj done
  exact ⟨_, Prod.ext left rfl, right.symm⟩

theorem render_ok {static : Bool} {template : Template}
    (given : (engine.render host static template values).1 = .ok markup)
    : ∃ bound store,
        Work.markup engine.settings template (engine.plugins.applyBefore values) engine.store
          = (.ok bound, store)
        ∧ ({ engine with store }.renderValue host static (.markup bound)).1 = .ok markup := by
  rw [render_eq] at given
  split at given
  case h_1 => cases given
  case h_2 done =>
    obtain ⟨store, ran, rfl⟩ := doWork_ok done
    exact ⟨_, store, ran, given⟩

theorem renderFragments_ok {fragments : List String}
    (given : (engine.renderFragments host fragments values).1 = .ok markup)
    : ∃ bound store,
        Work.markupOfFragments engine.settings fragments (engine.plugins.applyBefore values)
            engine.store
          = (.ok bound, store)
        ∧ ({ engine with store }.renderValue host false (.markup bound)).1 = .ok markup := by
  rw [renderFragments_eq] at given
  split at given
  case h_1 => cases given
  case h_2 done =>
    obtain ⟨store, ran, rfl⟩ := doWork_ok done
    exact ⟨_, store, ran, given⟩

end

end Engine

end TaggedMarkup
