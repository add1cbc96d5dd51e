import TaggedMarkup.Proofs.Caching.Work
import TaggedMarkup.Proofs.Rendering.Inner

/-! An engine is used in steps. The states that it can come to are those which some steps lead
to from a new engine, and a property of its settings and its store that every kind of change
keeps holds in all of them.
-/

namespace TaggedMarkup

open Stateful

/-- Without plugins the values are rendered as they are. -/
theorem Plugins.applyBefore_none {plugins : Plugins} (none : plugins.isEmpty = true)
    (values : List Value)
    : plugins.applyBefore values = values := by
  have before := (Bool.and_eq_true_iff.mp none).1
  simp only [applyBefore, List.isEmpty_iff.mp before, List.foldl_nil]

/-- Without plugins the markup is given out as it is. -/
theorem Plugins.applyAfter_none {plugins : Plugins} (none : plugins.isEmpty = true)
    (markup : String)
    : plugins.applyAfter markup = markup := by
  have after := (Bool.and_eq_true_iff.mp none).2
  simp only [applyAfter, List.isEmpty_iff.mp after, List.foldl_nil]

/-- What survives the requests of code survives a whole render, because only component code
reaches the store.
-/
theorem Store.Answering.performed {engine : Engine} {known : Template → Prop}
    {holds : Store → Prop}
    (answering
      : Store.Answering engine.settings (fun _ => True) known
          (fun store other => store = other ∧ holds store))
    {host : Host} (keeps : host.Keeps (fun _ => True) known) {request : RenderRequest}
    (within : request.Within (fun _ => True) known) (now : holds engine.store)
    : holds (engine.perform host request).2.store := by
  have renders := answering.renders keeps engine.plugins (host.levels + 1)
  obtain ⟨result, reached, reached', left, -, ⟨-, later⟩, -⟩ :
      Work.Alike _ _ _ _ engine.store engine.store :=
    renders within ⟨rfl, now⟩
  simp only [Engine.perform, Engine.doWork, ExceptT.run, left]
  exact later

/-- What survives all use of templates survives a whole render. -/
theorem Store.Lasting.performed {engine : Engine} {known : Template → Prop} {holds : Store → Prop}
    (lasting : Store.Lasting engine.settings known holds) {host : Host}
    (keeps : host.Keeps (fun _ => True) known) {request : RenderRequest}
    (within : request.Within (fun _ => True) known) (now : holds engine.store)
    : holds (engine.perform host request).2.store :=
  lasting.answering_true.performed keeps within now

inductive EngineStep where
  | register (components : List (String × Component))
  | plug (plugins : Plugins)
  | parse (template : Template)
  | compile (template : Template)
  | html (template : Template) (values : List Value)
  | createElement (template : Template) (values : List Value)
  | run (body : Body Value)
  | render (static : Bool) (template : Template) (values : List Value)
  | renderValue (static : Bool) (value : Value)
  | renderFragments (fragments : List String) (values : List Value)
  | clear

namespace EngineStep

/-- The engine after a step, whether the step succeeds or fails. -/
def after (host : Host) (engine : Engine) : EngineStep → Engine
  | .register components => (engine.register components).2
  | .plug plugins => { engine with plugins }
  | .parse template => (engine.parse template).2
  | .compile template => (engine.compile template).2
  | .html template values => (engine.html template values).2
  | .createElement template values => (engine.createElement template values).2
  | .run body => (engine.runBody host body).2
  | .render static template values => (engine.render host static template values).2
  | .renderValue static value => (engine.renderValue host static value).2
  | .renderFragments fragments values => (engine.renderFragments host fragments values).2
  | .clear => engine.clearCache

def Within (known : Template → Prop) : EngineStep → Prop
  | .parse template | .compile template | .html template _ | .createElement template _
  | .render _ template _ => known template
  | .run body => body.Keeps (fun _ => True) known
  | _ => True

theorem within_true (step : EngineStep) : step.Within fun _ => True := by
  cases step with
  | run body => exact body.keeps_true
  | _ => trivial

end EngineStep

namespace Engine

/-- The states of an engine that uses known templates only. -/
inductive Reachable (host : Host) (known : Template → Prop) : Engine → Prop
  | start (options : Options) : Reachable host known (Engine.ofOptions options)
  | step {engine : Engine} (reached : Reachable host known engine) {step : EngineStep}
    (within : step.Within known)
    : Reachable host known (step.after host engine)

theorem Reachable.foldl {host : Host} {engine : Engine}
    (reached : Reachable host (fun _ => True) engine) (steps : List EngineStep)
    : Reachable host (fun _ => True) (steps.foldl (EngineStep.after host) engine) := by
  induction steps generalizing engine with
  | nil => exact reached
  | cons step rest ih => exact ih (reached.step step.within_true)

/-- A property of settings and store is kept by everything that changes them. -/
structure Invariant (known : Template → Prop) (holds : Settings → Store → Prop) : Prop where
  start : ∀ options, holds { options } {}
  used : ∀ settings, Store.Lasting settings known (holds settings)
  cleared
    : ∀ {settings store},
        holds settings store → holds settings { store with cache := store.cache.clear }
  registered
    : ∀ {engine changed : Engine} {name component},
        holds engine.settings engine.store
        → engine.registerOne name component = .ok changed
        → holds changed.settings changed.store

namespace Invariant

variable {known : Template → Prop} {holds : Settings → Store → Prop}

/-- The property survives the registration of several components, of which a later one may be
refused, by induction on them.
-/
theorem registeredAll (invariant : Invariant known holds) {engine : Engine}
    (components : List (String × Component)) (now : holds engine.settings engine.store)
    : holds (engine.register components).2.settings (engine.register components).2.store := by
  induction components generalizing engine with
  | nil => exact now
  | cons first rest ih =>
      obtain ⟨name, component⟩ := first
      simp only [Engine.register]
      split
      next => exact now
      next changed registered => exact ih (invariant.registered now registered)

/-- The property survives every step of using an engine. -/
theorem after (invariant : Invariant known holds) {host : Host}
    (keeps : host.Keeps (fun _ => True) known) {engine : Engine} {step : EngineStep}
    (within : step.Within known) (now : holds engine.settings engine.store)
    : holds (step.after host engine).settings (step.after host engine).store := by
  have lasting := invariant.used engine.settings
  cases step with
  | register components => exact invariant.registeredAll components now
  | plug plugins => exact now
  | parse template => exact lasting.entry within now
  | compile template => exact lasting.compile within now
  | html template values => exact lasting.html within now
  | createElement template values => exact lasting.create within now
  | run body =>
      obtain ⟨result, reached, reached', left, -, ⟨-, later⟩, -⟩ :
          Work.Alike _ _ (body.run engine.settings _ host.contextDefault) _ engine.store _ :=
        lasting.answering_true.run
          (lasting.answering_true.renders keeps engine.plugins host.levels) (fun _ => trivial)
          within ⟨rfl, now⟩
      simp only [EngineStep.after, Engine.runBody, Engine.doWork, ExceptT.run, left]
      exact later
  | render => exact lasting.performed keeps ⟨within, fun _ _ => trivial⟩ now
  | renderValue => exact lasting.performed keeps trivial now
  | renderFragments => exact lasting.performed keeps (fun _ _ => trivial) now
  | clear => exact invariant.cleared now

/-- The property holds in every state that an engine can come to, by induction on the steps
that lead to it.
-/
theorem reachable (invariant : Invariant known holds) {host : Host}
    (keeps : host.Keeps (fun _ => True) known) {engine : Engine}
    (reached : Engine.Reachable host known engine)
    : holds engine.settings engine.store := by
  induction reached with
  | start options => exact invariant.start options
  | step _ within ih => exact invariant.after keeps within ih

end Invariant

end Engine

end TaggedMarkup
