import Mathlib.Data.List.Basic
import TaggedMarkup.Proofs.Session

/-! Registering a component checks its name and, for an alias, the name of the element. What is
inside a memo is not looked at, so that an alias in a memo may stand for anything. A call that
fails at some component leaves the engine as the components before it have made it.
-/

namespace TaggedMarkup

-----------------------------------------------------------------------------------------
-- Components
-----------------------------------------------------------------------------------------

namespace Component

def isMemo : Component → Bool
  | .memo _ => true
  | _ => false

/-- The element that a component stands for, in however many memos its alias is. -/
def aliased? : Component → Option String
  | .alias tag => some tag
  | .memo inner => inner.aliased?
  | _ => none

end Component

/-- A component that stands for an element is rendered as the element, by induction on the memos
around the alias.
-/
theorem Render.renderComponent_aliased {component : Component} {tag : String}
    (stands : component.aliased? = some tag) (cx : RenderSettings)
    (renderAny : Value → Render Unit) (props : Props) (reference : Option Value)
    : renderComponent cx renderAny props reference component
      = renderHost cx tag props (renderChildren renderAny props) := by
  induction component with
  | memo inner ih => exact ih stands
  | «alias» other =>
      obtain rfl := Option.some.inj stands
      rfl
  | function | stateful | provider | consumer | forwardRef | fragment => cases stands

-----------------------------------------------------------------------------------------
-- Registries
-----------------------------------------------------------------------------------------

namespace Registry

/-- What is looked at before a component is registered under a name: the name, and the element of
a component that is not a memo.
-/
structure Accepts (name : String) (component : Component) : Prop where
  named : Html.isPascalCase name = true
  hosted
    : ∀ tag,
        component.isMemo = false
        → component.aliased? = some tag
        → Html.isHostName tag = true

/-- All that is registered has been accepted. -/
def Accepted (registry : Registry) : Prop :=
  ∀ name component, registry.find? name = some component → Accepts name component

theorem refusal?_eq_none_iff {name : String} {component : Component}
    : refusal? name component = none ↔ Accepts name component := by
  simp only [refusal?]
  cases named : Html.isPascalCase name with
  | false =>
      simp only [Bool.not_false, if_true, reduceCtorEq, false_iff]
      intro accepts
      exact absurd (named.symm.trans accepts.named) Bool.false_ne_true
  | true =>
      simp only [Bool.not_true, Bool.false_eq_true, if_false]
      cases component with
      | «alias» tag =>
          constructor
          · intro accepted
            refine ⟨named, fun other _ stands => ?_⟩
            obtain rfl := Option.some.inj stands
            simpa using accepted
          · intro accepts
            simp [accepts.hosted tag rfl rfl]
      | memo inner => exact iff_of_true rfl ⟨named, fun _ notMemo _ => nomatch notMemo⟩
      | function | stateful | provider | consumer | forwardRef | fragment =>
          exact iff_of_true rfl ⟨named, fun _ _ stands => nomatch stands⟩

theorem accepted_empty : Accepted {} := by
  intro name component found
  simp [find?, Fields.get?] at found

/-- Registering one more component keeps that all have been accepted. -/
theorem Accepted.register {registry registered : Registry} (accepted : registry.Accepted)
    {name : String} {component : Component} {changed : Bool}
    (registers : registry.register name component = .ok (changed, registered))
    : registered.Accepted := by
  simp only [Registry.register] at registers
  split at registers
  next => cases registers
  next isAccepted =>
      obtain ⟨-, rfl⟩ := Prod.mk.inj (Except.ok.inj registers)
      intro other found isFound
      rw [find?, Fields.get?_insert] at isFound
      split at isFound
      next same =>
          obtain rfl := same
          obtain rfl := Option.some.inj isFound
          exact refusal?_eq_none_iff.mp isAccepted
      next => exact accepted other found isFound

end Registry

namespace Engine

/-- Being registered means having been accepted, whatever the use of templates does. -/
theorem accepted_invariant
    : Invariant (fun _ => True) fun settings _ => settings.registry.Accepted where
  start _ := Registry.accepted_empty
  used settings := by constructor <;> intros <;> assumption
  cleared now := now
  registered := by
    intro engine changed name component accepted registers
    simp only [registerOne] at registers
    split at registers
    next => cases registers
    next registered =>
        obtain rfl := Except.ok.inj registers
        exact accepted.register registered

-----------------------------------------------------------------------------------------
-- Calls that fail
-----------------------------------------------------------------------------------------

/-- One component fails to be registered exactly when it is refused. -/
theorem registerOne_eq_error_iff {engine : Engine} {name : String} {component : Component}
    {error : Error}
    : engine.registerOne name component = .error error
      ↔ Registry.refusal? name component = some error := by
  simp only [registerOne, Registry.register]
  cases Registry.refusal? name component <;> simp

/-- A call fails with an error and leaves an engine exactly when one of its components is refused
with the error and the call with the components before it succeeds and leaves the engine, by
induction on the components.
-/
theorem register_eq_error_iff {engine after : Engine} {components : List (String × Component)}
    {error : Error}
    : engine.register components = (.error error, after)
      ↔ ∃ k name component,
          components[k]? = some (name, component)
          ∧ Registry.refusal? name component = some error
          ∧ engine.register (components.take k) = (.ok (), after) := by
  induction components generalizing engine with
  | nil => simp [register]
  | cons first rest ih =>
      obtain ⟨name, component⟩ := first
      cases registers : engine.registerOne name component with
      | error refused =>
          have isRefused := registerOne_eq_error_iff.mp registers
          simp only [register, registers, Prod.mk.injEq, Except.error.injEq]
          constructor
          · rintro ⟨rfl, rfl⟩
            exact ⟨0, name, component, rfl, isRefused, rfl⟩
          · rintro ⟨k, other, given, isHere, isError, before⟩
            cases k with
            | zero =>
                obtain ⟨rfl, rfl⟩ := Prod.mk.inj (Option.some.inj isHere)
                exact ⟨Option.some.inj (isRefused.symm.trans isError), (Prod.mk.inj before).2⟩
            | succ k =>
                simp only [List.take_succ_cons, register, registers] at before
                cases (Prod.mk.inj before).1
      | ok changed =>
          have isAccepted : Registry.refusal? name component ≠ some error := by
            intro isError
            rw [registerOne_eq_error_iff.mpr isError] at registers
            cases registers
          simp only [register, registers, ih]
          constructor
          · rintro ⟨k, other, given, isHere, isError, before⟩
            refine ⟨k + 1, other, given, isHere, isError, ?_⟩
            simpa only [List.take_succ_cons, register, registers] using before
          · rintro ⟨k, other, given, isHere, isError, before⟩
            cases k with
            | zero =>
                obtain ⟨rfl, rfl⟩ := Prod.mk.inj (Option.some.inj isHere)
                exact absurd isError isAccepted
            | succ k =>
                refine ⟨k, other, given, isHere, isError, ?_⟩
                simpa only [List.take_succ_cons, register, registers] using before

-----------------------------------------------------------------------------------------
-- Registrations
-----------------------------------------------------------------------------------------

/-- In every state that an engine can come to, the registered names begin with a capital and have
letters and digits, and a component that stands for an element is rendered as it and, unless it is
a memo, the element has a valid name. Nothing more is looked at. A call that fails leaves what the
call with the components before the one that is refused leaves.
-/
theorem register_accepted {host : Host} {engine : Engine}
    (reached : Engine.Reachable host (fun _ => True) engine)
    : (∀ name component,
        engine.settings.registry.find? name = some component
        → Html.isPascalCase name = true
          ∧ ∀ tag,
            component.aliased? = some tag
            → (∀ cx renderAny props reference,
                Render.renderComponent cx renderAny props reference component
                = Render.renderHost cx tag props (Render.renderChildren renderAny props))
              ∧ (component.isMemo = false → Html.isHostName tag = true))
      ∧ (∀ name component,
          (∃ changed, engine.registerOne name component = .ok changed)
          ↔ Registry.Accepts name component)
      ∧ ∀ components error after,
          engine.register components = (.error error, after)
          ↔ ∃ k name component,
              components[k]? = some (name, component)
              ∧ Registry.refusal? name component = some error
              ∧ engine.register (components.take k) = (.ok (), after) := by
  have accepted := accepted_invariant.reachable host.keeps_true reached
  refine ⟨?_, ?_, fun components error after => register_eq_error_iff⟩
  · intro name component found
    have accepts := accepted name component found
    refine ⟨accepts.named, fun tag stands => ⟨?_, fun notMemo => accepts.hosted tag notMemo stands⟩⟩
    exact Render.renderComponent_aliased stands
  · intro name component
    rw [← Registry.refusal?_eq_none_iff]
    cases registers : engine.registerOne name component with
    | error error => simp [registerOne_eq_error_iff.mp registers]
    | ok changed =>
        refine iff_of_true ⟨changed, rfl⟩ ?_
        cases refused : Registry.refusal? name component with
        | none => rfl
        | some error =>
            rw [registerOne_eq_error_iff.mpr refused] at registers
            cases registers

/-- An engine with an alias and a memo of one, and with a template that depends on the memo. -/
def twoAliases : Engine :=
  [.register [("Card", .memo (.alias "div")), ("Box", .alias "section")],
    .parse ⟨0, ["<Card/>"]⟩].foldl
    (EngineStep.after (.constant fun _ => .undefined)) (Engine.ofOptions {})

theorem reachable_twoAliases
    : Engine.Reachable (.constant fun _ => .undefined) (fun _ => True) twoAliases :=
  (Engine.Reachable.start {}).foldl _

/-- A call that fails at its second name gives the first one another meaning, which drops the
template, and does not come to the third.
-/
theorem register_accepted_second
    : twoAliases.settings.registry.find? "Box" = some (.alias "section")
      ∧ Html.isHostName "section" = true
      ∧ let first := (twoAliases.register [("Card", .fragment)]).2
        twoAliases.register [("Card", .fragment), ("panel", .fragment), ("Box", .fragment)]
          = (.error (.invalidComponentName "panel"), first)
        ∧ first.settings.registry.find? "Box" = some (.alias "section")
        ∧ (twoAliases.store.cache.size, first.store.cache.size) = (1, 0) := by
  obtain ⟨registered, -, fails⟩ := register_accepted reachable_twoAliases
  have isBox : twoAliases.settings.registry.find? "Box" = some (.alias "section") := by
    decide +kernel
  have succeeds : (twoAliases.register [("Card", .fragment)]).1 = .ok () := by decide +kernel
  refine ⟨isBox, ((registered "Box" _ isBox).2 "section" rfl).2 rfl, ?_, by decide +kernel,
    by decide +kernel⟩
  exact (fails ..).mpr ⟨1, "panel", .fragment, rfl, by decide +kernel, Prod.ext succeeds rfl⟩

/-- An alias that could not be registered is registered in a memo, and its name is written as a
tag.
-/
theorem memo_hides_alias
    : let host := Host.constant fun _ => .undefined
      let hidden : Component := .memo (.alias "p class")
      let engine := ((Engine.ofOptions {}).register [("Card", hidden)]).2
      ((Engine.ofOptions {}).register [("Card", .alias "p class")]).1
        = .error (.unsupportedAlias "Card")
      ∧ ((Engine.ofOptions {}).register [("Card", hidden)]).1 = .ok ()
      ∧ engine.settings.registry.find? "Card" = some hidden
      ∧ hidden.aliased? = some "p class"
      ∧ Html.isHostName "p class" = false
      ∧ (engine.render host false ⟨0, ["<Card/>"]⟩ []).1
        = .ok "<p class data-reactroot=\"\"></p class>" := by
  decide +kernel

end Engine

end TaggedMarkup
