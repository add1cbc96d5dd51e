import TaggedMarkup.Proofs.Likeness.Properties
import TaggedMarkup.Proofs.Outcomes

/-! Code that does not look into bound templates cannot tell values that are alike apart: it makes
the same requests and yields values that are alike again.
-/

namespace TaggedMarkup

open Stateful

/-- The same failure, or results that are related. -/
inductive Outcome.Like {α : Type} (like : α → α → Prop) : Except Error α → Except Error α → Prop
  | error (error : Error) : Outcome.Like like (.error error) (.error error)
  | ok {result result' : α} (results : like result result')
    : Outcome.Like like (.ok result) (.ok result')

variable {standsFor : Part → Part → Prop} {α β : Type} {like : α → α → Prop}
  {likeNext : β → β → Prop}

-----------------------------------------------------------------------------------------
-- Code
-----------------------------------------------------------------------------------------

/-- Two pieces of code make the same requests with values that are alike, as long as the answers
are alike, and come to results that are related. What they ask the engine for is the same, so
neither of them has values rendered that are only alike.
-/
inductive Body.Like (standsFor : Part → Part → Prop) (like : α → α → Prop)
    : Body α → Body α → Prop
  | done {result result' : α} (results : like result result')
    : Body.Like standsFor like (.done result) (.done result')
  | fail (error : Error) : Body.Like standsFor like (.fail error) (.fail error)
  | serial {next next' : Nat → Body α}
    (goesOn : ∀ number, Body.Like standsFor like (next number) (next' number))
    : Body.Like standsFor like (.serial next) (.serial next')
  | context {name : String} {next next' : Value → Body α}
    (goesOn
      : ∀ value other,
          Value.Like standsFor value other → Body.Like standsFor like (next value) (next' other))
    : Body.Like standsFor like (.context name next) (.context name next')
  | html {template : Template} {values values' : List Value}
    {next next' : Except Error Value → Body α} (given : Value.AllLike standsFor values values')
    (goesOn
      : ∀ answer answer',
          Outcome.Like (Value.Like standsFor) answer answer'
          → Body.Like standsFor like (next answer) (next' answer'))
    : Body.Like standsFor like (.html template values next) (.html template values' next')
  | create {template : Template} {values values' : List Value}
    {next next' : Except Error Value → Body α} (given : Value.AllLike standsFor values values')
    (goesOn
      : ∀ answer answer',
          Outcome.Like (Value.Like standsFor) answer answer'
          → Body.Like standsFor like (next answer) (next' answer'))
    : Body.Like standsFor like (.create template values next) (.create template values' next')
  | ask {request : EngineRequest} {next next' : request.Answer → Body α}
    (goesOn : ∀ answer, Body.Like standsFor like (next answer) (next' answer))
    : Body.Like standsFor like (.ask request next) (.ask request next')

namespace Body.Like

variable {body body' : Body α} {next next' : α → Body β}

/-- Code that goes on with what other code yields, by induction on the requests of the first. -/
theorem bind (first : Body.Like standsFor like body body')
    (rest
      : ∀ result result',
          like result result' → Body.Like standsFor likeNext (next result) (next' result'))
    : Body.Like standsFor likeNext (body.bind next) (body'.bind next') := by
  induction first with
  | done results => exact rest _ _ results
  | fail error => exact .fail error
  | serial _ ih => exact .serial ih
  | context _ ih => exact .context ih
  | html given _ ih => exact .html given ih
  | create given _ ih => exact .create given ih
  | ask _ ih => exact .ask ih

theorem outcome (first : Body.Like standsFor like body body')
    : Body.Like standsFor (Outcome.Like like) body.outcome body'.outcome := by
  induction first with
  | done results => exact .done (.ok results)
  | fail error => exact .done (.error error)
  | serial _ ih => exact .serial ih
  | context _ ih => exact .context ih
  | html given _ ih => exact .html given ih
  | create given _ ih => exact .create given ih
  | ask _ ih => exact .ask ih

theorem ofAnswer {answer answer' : Except Error α} (answers : Outcome.Like like answer answer')
    : Body.Like standsFor like (.ofAnswer answer) (.ofAnswer answer') := by
  cases answers with
  | error error => exact .fail error
  | ok results => exact .done results

end Body.Like

/-- All code of a host does alike with values that are alike. -/
structure Host.Respects (host : Host) (standsFor : Part → Part → Prop) : Prop where
  function
    : ∀ code {props props'},
        Fields.Like (Value.Like standsFor) props props'
        → Body.Like standsFor (Value.Like standsFor) (host.function code props)
            (host.function code props')
  forwardRef
    : ∀ code {props props' reference reference'},
        Fields.Like (Value.Like standsFor) props props'
        → Option.Rel (Value.Like standsFor) reference reference'
        → Body.Like standsFor (Value.Like standsFor) (host.forwardRef code props reference)
            (host.forwardRef code props' reference')
  construct
    : ∀ code {props props'},
        Fields.Like (Value.Like standsFor) props props'
        → Body.Like standsFor (Value.Like standsFor) ((host.stateful code).construct props)
            ((host.stateful code).construct props')
  willMount
    : ∀ code {state state'},
        Value.Like standsFor state state'
        → Value.Like standsFor ((host.stateful code).willMount state)
            ((host.stateful code).willMount state')
  stateful
    : ∀ code {state state' props props'},
        Value.Like standsFor state state'
        → Fields.Like (Value.Like standsFor) props props'
        → Body.Like standsFor (Value.Like standsFor) ((host.stateful code).render state props)
            ((host.stateful code).render state' props')
  call
    : ∀ {closure closure' arguments arguments'},
        Value.Like standsFor (.function closure) (.function closure')
        → Value.AllLike standsFor arguments arguments'
        → Body.Like standsFor (Value.Like standsFor) (host.call closure arguments)
            (host.call closure' arguments')

/-- No code of the host looks into bound templates or has them rendered by itself: whichever
templates stand for each other, it does alike with values that are alike.
-/
def Host.Parametric (host : Host) : Prop :=
  ∀ standsFor : Part → Part → Prop, (∀ part, standsFor part part) → host.Respects standsFor

-----------------------------------------------------------------------------------------
-- Work
-----------------------------------------------------------------------------------------

/-- From every store, two pieces of work leave the same store behind, with outcomes that are
related.
-/
def Work.Like (like : α → α → Prop) (work work' : Work α) : Prop :=
  ∀ store,
    (work store).2 = (work' store).2 ∧ Outcome.Like like (work store).1 (work' store).1

namespace Work.Like

theorem refl (work : Work α) : Work.Like Eq work work := by
  intro store
  refine ⟨rfl, ?_⟩
  cases (work store).1 with
  | error error => exact .error error
  | ok => exact .ok rfl

theorem pure {result result' : α} (results : like result result')
    : Work.Like like (pure result) (pure result') :=
  fun _ => ⟨rfl, .ok results⟩

theorem throw (error : Error) : Work.Like like (throw error) (throw error) :=
  fun _ => ⟨rfl, .error error⟩

theorem bind {work work' : Work α} {next next' : α → Work β} (first : Work.Like like work work')
    (rest
      : ∀ result result',
          like result result' → Work.Like likeNext (next result) (next' result'))
    : Work.Like likeNext (work >>= next) (work' >>= next') := by
  intro store
  obtain ⟨stores, outcomes⟩ := first store
  simp only [bind_apply]
  generalize work store = reached, work' store = reached' at stores outcomes ⊢
  obtain ⟨outcome, left⟩ := reached
  obtain ⟨outcome', right⟩ := reached'
  obtain rfl : left = right := stores
  cases outcomes with
  | error error => exact ⟨rfl, .error error⟩
  | ok results => exact rest _ _ results left

theorem outcome {work work' : Work α} (first : Work.Like like work work')
    : Work.Like (Outcome.Like like) work.outcome work'.outcome := by
  intro store
  obtain ⟨stores, outcomes⟩ := first store
  simp only [Work.outcome]
  exact ⟨stores, .ok outcomes⟩

variable {values values' : List Value}

/-- Work that is the same in both goes on alike. -/
theorem after (work : Work α) {next next' : α → Work β}
    (rest : ∀ result, Work.Like likeNext (next result) (next' result))
    : Work.Like likeNext (work >>= next) (work >>= next') :=
  (refl work).bind fun result _ same => same ▸ rest result

/-- One template is bound alike to values that are alike. -/
theorem html (settings : Settings) (template : Template) (same : ∀ part, standsFor part part)
    (given : Value.AllLike standsFor values values')
    : Work.Like (Value.Like standsFor) (Work.html settings template values)
        (Work.html settings template values') := by
  have bound
      : Work.Like (fun markup markup' => Value.Like standsFor (.markup markup) (.markup markup'))
          (Work.markup settings template values) (Work.markup settings template values') := by
    simp only [Work.markup, given.length_eq]
    refine after _ fun _ => after _ fun compiled => ?_
    exact after _ fun serial => .pure (.markup (same (compiled, none)) given)
  exact bound.bind fun _ _ markups => .pure markups

theorem createElement (settings : Settings) (template : Template)
    (given : Value.AllLike standsFor values values')
    : Work.Like (Value.Like standsFor) (Work.createElement settings template values)
        (Work.createElement settings template values') := by
  simp only [Work.createElement, given.length_eq]
  refine after _ fun _ => after _ fun found => after _ fun serial => .pure ?_
  exact ElementGraph.build_like given found.tree

end Work.Like

/-- Code that does alike in contexts that are alike leaves the same store behind, by induction on
its requests.
-/
theorem Body.Like.run {body body' : Body α} (alike : Body.Like standsFor like body body')
    (settings : Settings) (inner : RenderRequest → Work String)
    (same : ∀ part, standsFor part part) {contexts contexts' : String → Value}
    (around : ∀ name, Value.Like standsFor (contexts name) (contexts' name))
    : Work.Like like (body.run settings inner contexts) (body'.run settings inner contexts') := by
  induction alike with
  | done results => exact .pure results
  | fail error => exact .throw error
  | serial _ ih => exact .after _ ih
  | context _ ih => exact ih _ _ (around _)
  | html given _ ih => exact (Work.Like.html settings _ same given).outcome.bind ih
  | create given _ ih => exact (Work.Like.createElement settings _ given).outcome.bind ih
  | ask _ ih => exact .after _ ih

end TaggedMarkup
