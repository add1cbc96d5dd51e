import TaggedMarkup.Proofs.Code
import TaggedMarkup.Proofs.Outcomes

/-! Component code reaches the store through its requests only. Two stores that answer them
alike, and stay related when they do, cannot be told apart by any code.
-/

namespace TaggedMarkup

open Stateful

/-- Two pieces of work give the same result, of which a property holds, and take the stores
that they start from to stores that are related again.
-/
def Work.Alike {α : Type} (related : Store → Store → Prop) (good : α → Prop)
    (first second : Work α) (store other : Store)
    : Prop :=
  ∃ result reached reached',
    first store = (result, reached)
    ∧ second other = (result, reached')
    ∧ related reached reached'
    ∧ ∀ value, result = .ok value → good value

/-- A relation of stores is kept by the requests of code, which are answered alike from both
sides and with good values.
-/
structure Store.Answering (settings : Settings) (good : Value → Prop)
    (known : Template → Prop) (related : Store → Store → Prop)
    : Prop where
  serial
    : ∀ {store other},
        related store other
        → Work.Alike related (fun _ => True) Work.freshSerial Work.freshSerial store other
  html
    : ∀ {template values store other},
        known template
        → (∀ value ∈ values, good value)
        → related store other
        → Work.Alike related good (Work.html settings template values)
            (Work.html settings template values) store other
  create
    : ∀ {template values store other},
        known template
        → (∀ value ∈ values, good value)
        → related store other
        → Work.Alike related good (Work.createElement settings template values)
            (Work.createElement settings template values) store other
  parse
    : ∀ {template store other},
        known template
        → related store other
        → Work.Alike related (fun _ => True) (Work.parse settings template)
            (Work.parse settings template) store other
  compile
    : ∀ {template store other},
        known template
        → related store other
        → Work.Alike related (fun _ => True) (Work.compile settings template)
            (Work.compile settings template) store other
  fragments
    : ∀ {fragments values store other},
        related store other
        → Work.Alike related (fun _ => True) (Work.markupOfFragments settings fragments values)
            (Work.markupOfFragments settings fragments values) store other

/-- A relation of stores is kept by renders that code starts, which end alike from both sides. -/
def Store.Renders (inner : RenderRequest → Work String) (good : Value → Prop)
    (known : Template → Prop) (related : Store → Store → Prop)
    : Prop :=
  ∀ ⦃request store other⦄,
    request.Within good known
    → related store other
    → Work.Alike related (fun _ => True) (inner request) (inner request) store other

/-- Code that goes on with what other code yields runs after it, by induction on the requests of
the first.
-/
theorem Body.run_bind {α β : Type} (settings : Settings) (inner : RenderRequest → Work String)
    (contexts : String → Value) (body : Body α) (next : α → Body β)
    : (body.bind next).run settings inner contexts
      = body.run settings inner contexts
          >>= fun value => (next value).run settings inner contexts := by
  induction body with
  | done | fail => rfl
  | serial _ ih | html _ _ _ ih | create _ _ _ ih | ask _ _ ih =>
      simp only [Body.bind, run, ih, bind_assoc]
  | context name _ ih => exact ih (contexts name)

/-- The outcome of alike work is alike, and what it holds is good. -/
theorem Work.Alike.outcome {α : Type} {related : Store → Store → Prop} {good : α → Prop}
    {first second : Work α} {store other : Store}
    (alike : Work.Alike related good first second store other)
    : Work.Alike related (fun answer => ∀ value, answer = .ok value → good value)
        first.outcome second.outcome store other := by
  obtain ⟨result, reached, reached', left, right, kept, holds⟩ := alike
  refine ⟨.ok result, reached, reached', ?_, ?_, kept, ?_⟩
  · simp only [Work.outcome, left]
  · simp only [Work.outcome, right]
  · intro answer same
    exact Except.ok.inj same ▸ holds

/-- Alike work goes on alike when what follows it is alike from related stores. -/
theorem Work.Alike.bind {α β : Type} {related : Store → Store → Prop} {good : α → Prop}
    {holds : β → Prop} {first second : Work α} {next next' : α → Work β}
    {store other : Store}
    (alike : Work.Alike related good first second store other)
    (rest
      : ∀ value reached reached',
          good value
          → related reached reached'
          → Work.Alike related holds (next value) (next' value) reached reached')
    : Work.Alike related holds (first >>= next) (second >>= next') store other := by
  obtain ⟨result, reached, reached', left, right, kept, fine⟩ := alike
  simp only [Work.Alike, bind_apply, left, right]
  cases result with
  | error error => exact ⟨.error error, reached, reached', rfl, rfl, kept, by simp⟩
  | ok value => exact rest value reached reached' (fine value rfl) kept

/-- Work that goes alike does so whatever else is said of its result. -/
theorem Work.Alike.weaken {α : Type} {related : Store → Store → Prop} {good holds : α → Prop}
    {first second : Work α} {store other : Store}
    (alike : Work.Alike related good first second store other)
    (wider : ∀ value, good value → holds value)
    : Work.Alike related holds first second store other := by
  obtain ⟨result, reached, reached', left, right, kept, fine⟩ := alike
  exact ⟨result, reached, reached', left, right, kept, fun value same => wider _ (fine value same)⟩

section

variable {settings : Settings} {inner : RenderRequest → Work String} {good : Value → Prop}
  {known : Template → Prop} {related : Store → Store → Prop}

/-- Work that leaves its store alone goes alike. -/
theorem Work.Alike.pure {α : Type} {holds : α → Prop} {value : α} (fine : holds value)
    {store other : Store} (kept : related store other)
    : Work.Alike related holds (pure value) (pure value) store other :=
  ⟨.ok value, store, other, rfl, rfl, kept, fun _ same => Except.ok.inj same ▸ fine⟩

/-- The engine answers alike from related stores. -/
theorem Store.Answering.perform (answering : Store.Answering settings good known related)
    (renders : Store.Renders inner good known related) {request : EngineRequest}
    (within : request.Within good known) {store other : Store} (kept : related store other)
    : Work.Alike related (fun _ => True) (request.perform settings inner)
        (request.perform settings inner) store other := by
  cases request with
  | settings => exact .pure trivial kept
  | parse template => exact (answering.parse within kept).outcome.weaken fun _ _ => trivial
  | compile template => exact (answering.compile within kept).outcome.weaken fun _ _ => trivial
  | render request => exact (renders within kept).outcome.weaken fun _ _ => trivial

/-- Code that keeps a property runs alike from related stores and yields a good value, by
induction on its requests.
-/
theorem Store.Answering.run (answering : Store.Answering settings good known related)
    (renders : Store.Renders inner good known related) {contexts : String → Value}
    (provided : ∀ name, good (contexts name)) {body : Body Value}
    (keeps : body.Keeps good known) {store other : Store} (kept : related store other)
    : Work.Alike related good (body.run settings inner contexts)
        (body.run settings inner contexts) store other := by
  induction body generalizing store other with
  | done result =>
      have fine : good result := keeps
      exact .pure fine kept
  | fail error => exact ⟨.error error, store, other, rfl, rfl, kept, by simp⟩
  | serial next ih =>
      simp only [Body.run]
      apply (answering.serial kept).bind
      intro number reached reached' _ kept
      exact ih number (keeps number) kept
  | context name next ih =>
      simp only [Body.run]
      exact ih (contexts name) (keeps _ (provided name)) kept
  | html template values next ih =>
      obtain ⟨isKnown, given, goesOn⟩ := keeps
      simp only [Body.run]
      apply (answering.html isKnown given kept).outcome.bind
      intro answer reached reached' fine kept
      exact ih answer (goesOn answer fine) kept
  | create template values next ih =>
      obtain ⟨isKnown, given, goesOn⟩ := keeps
      simp only [Body.run]
      apply (answering.create isKnown given kept).outcome.bind
      intro answer reached reached' fine kept
      exact ih answer (goesOn answer fine) kept
  | ask request next ih =>
      obtain ⟨within, goesOn⟩ := keeps
      simp only [Body.run]
      apply (answering.perform renders within kept).bind
      intro answer reached reached' _ kept
      exact ih answer (goesOn answer) kept

end

end TaggedMarkup
