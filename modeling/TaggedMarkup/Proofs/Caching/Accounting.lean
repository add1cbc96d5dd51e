import TaggedMarkup.Proofs.Caching.Lifetime

/-! Work on templates is done once and counted. Whatever an engine is used for comes down to
requests of its store, to registrations and to clearing the cache. What these do to the templates
accounts for the counters in every state that an engine can come to.
-/

namespace TaggedMarkup

open Stateful

-----------------------------------------------------------------------------------------
-- Requests
-----------------------------------------------------------------------------------------

namespace Work

variable {settings : Settings}

/-- What happens to a template when it is looked up or read. -/
def entryLog (settings : Settings) (template : Template) (store : Store) : List CacheEvent :=
  match store.cache.find? template.id with
  | some _ => [.hit template.id]
  | none =>
      match Tree.parse settings.registry.resolver settings.options.read template.fragments with
      | .ok _ => [.parsed template.id]
      | .error _ => []

/-- What happens to a template when it is compiled, unless its entry has a compiled form. -/
def formLog (id : Nat) (found : CacheEntry) : List CacheEvent :=
  match found.compiled with
  | some _ => []
  | none =>
      match Compiled.ofTree found.tree found.components with
      | .ok _ => [.compiled id]
      | .error _ => [.failed id]

/-- What happens to a template when its compiled form is asked for. -/
def compileLog (settings : Settings) (template : Template) (store : Store) : List CacheEvent :=
  match (entry settings template store).1 with
  | .ok found => entryLog settings template store ++ formLog template.id found
  | .error _ => entryLog settings template store

theorem entry_turns (settings : Settings) (template : Template) (store : Store)
    : store.cache.Turns (entry settings template store).2.cache
        (entryLog settings template store) := by
  rw [entry_apply, entryLog]
  cases isFound : store.cache.find? template.id with
  | some found => exact .hit isFound
  | none =>
      simp only
      cases Tree.parse settings.registry.resolver settings.options.read template.fragments with
      | error error => exact .refl store.cache
      | ok tree => exact .parsed isFound rfl

theorem compile_turns {store : Store} (exact : store.cache.Exact) (template : Template)
    : store.cache.Turns (compile settings template store).2.cache
        (compileLog settings template store) := by
  have read := entry_turns settings template store
  have exactThen : (entry settings template store).2.cache.Exact :=
    (Cache.Exact.lasting settings fun _ => True).entry trivial exact
  rw [compile_apply, compileLog]
  cases asked : entry settings template store with
  | mk result reached =>
      rw [asked] at read exactThen
      cases result with
      | error error => exact read
      | ok found =>
          -- The template is in the cache by now, so it can be compiled there or dropped.
          have isFound := entry_found asked
          refine read.trans ?_
          simp only [formLog]
          cases isForm : found.compiled with
          | some form => exact .refl reached.cache
          | none =>
              simp only
              cases Compiled.ofTree found.tree found.components with
              | error error => exact .failed exactThen.distinct isFound isForm
              | ok form => exact .compiled exactThen.distinct isFound isForm form

/-- Looking a template up or reading it is counted once, and failing to read it is not. -/
theorem entry_counted (settings : Settings) (template : Template) (store : Store)
    : (entry settings template store).2.cache.stats.hits
          + (entry settings template store).2.cache.stats.parses
      = store.cache.stats.hits + store.cache.stats.parses
          + if (entry settings template store).1.isOk then 1 else 0 := by
  rw [entry_apply]
  cases store.cache.find? template.id with
  | some found => exact Nat.add_right_comm ..
  | none =>
      simp only
      cases Tree.parse settings.registry.resolver settings.options.read template.fragments with
      | error error => rfl
      | ok tree => rfl

/-- Compiling changes no count of what is looked up or read. -/
theorem compile_counted (settings : Settings) (template : Template) (store : Store)
    : (compile settings template store).2.cache.stats.hits
          + (compile settings template store).2.cache.stats.parses
      = (entry settings template store).2.cache.stats.hits
          + (entry settings template store).2.cache.stats.parses := by
  rw [compile_apply]
  cases entry settings template store with
  | mk result reached =>
      cases result with
      | error error => rfl
      | ok found =>
          simp only
          split
          · rfl
          · split
            · rfl
            · simp only [Cache.stats_remove]

/-- A template to which values are bound is compiled when there are as many values as slots. -/
theorem html_cache (settings : Settings) (template : Template) (values : List Value)
    (store : Store)
    : (html settings template values store).2.cache
      = if slotCount template.fragments = values.length then
          (compile settings template store).2.cache
        else
          store.cache := by
  rw [html_store, markup_apply]
  split
  · cases compile settings template store with
    | mk result reached => cases result <;> rfl
  · rfl

theorem createElement_cache (settings : Settings) (template : Template) (values : List Value)
    (store : Store)
    : (createElement settings template values store).2.cache
      = if slotCount template.fragments = values.length then
          (entry settings template store).2.cache
        else
          store.cache := by
  rw [createElement_apply]
  split
  · cases entry settings template store with
    | mk result reached => cases result <;> rfl
  · rfl

end Work

/-- What is asked of a store. -/
inductive StoreRequest where
  | serial
  | entry (template : Template)
  | compile (template : Template)
  | html (template : Template) (values : List Value)
  | create (template : Template) (values : List Value)

namespace StoreRequest

/-- The store after a request, whether it is answered or fails. -/
def perform (settings : Settings) (store : Store) : StoreRequest → Store
  | .serial => (Work.freshSerial store).2
  | .entry template => (Work.entry settings template store).2
  | .compile template => (Work.compile settings template store).2
  | .html template values => (Work.html settings template values store).2
  | .create template values => (Work.createElement settings template values store).2

/-- The template that is looked up or read for a request. With too few or too many values there is
none.
-/
def asked : StoreRequest → Option Template
  | .serial => none
  | .entry template | .compile template => some template
  | .html template values | .create template values =>
      if slotCount template.fragments = values.length then some template else none

/-- Whether a template is looked up or read for a request, with success. -/
def finds (settings : Settings) (store : Store) (request : StoreRequest) : Bool :=
  match request.asked with
  | some template => (Work.entry settings template store).1.isOk
  | none => false

/-- What happens to the templates for a request. -/
def log (settings : Settings) (store : Store) (request : StoreRequest) : List CacheEvent :=
  match request, request.asked with
  | .compile _, some template | .html _ _, some template =>
      Work.compileLog settings template store
  | _, some template => Work.entryLog settings template store
  | _, none => []

def performAll (settings : Settings) (store : Store) (requests : List StoreRequest) : Store :=
  requests.foldl (perform settings) store

def logAll (settings : Settings) (store : Store) : List StoreRequest → List CacheEvent
  | [] => []
  | request :: rest =>
      request.log settings store ++ logAll settings (request.perform settings store) rest

/-- Every template that is looked up or read with success is counted once, and no other is. -/
theorem perform_counted (settings : Settings) (store : Store) (request : StoreRequest)
    : (request.perform settings store).cache.stats.hits
          + (request.perform settings store).cache.stats.parses
      = store.cache.stats.hits + store.cache.stats.parses
          + if request.finds settings store then 1 else 0 := by
  cases request with
  | serial => rfl
  | entry template => exact Work.entry_counted settings template store
  | compile template =>
      exact (Work.compile_counted ..).trans (Work.entry_counted settings template store)
  | html template values =>
      simp only [perform, finds, asked, Work.html_cache]
      by_cases fits : slotCount template.fragments = values.length
      · simp only [if_pos fits]
        exact (Work.compile_counted ..).trans (Work.entry_counted settings template store)
      · simp only [if_neg fits, Bool.false_eq_true, if_false, Nat.add_zero]
  | create template values =>
      simp only [perform, finds, asked, Work.createElement_cache]
      by_cases fits : slotCount template.fragments = values.length
      · simp only [if_pos fits]
        exact Work.entry_counted settings template store
      · simp only [if_neg fits, Bool.false_eq_true, if_false, Nat.add_zero]

theorem turns {settings : Settings} {store : Store} (exact : store.cache.Exact)
    (request : StoreRequest)
    : store.cache.Turns (request.perform settings store).cache (request.log settings store) := by
  cases request with
  | serial => exact .refl store.cache
  | entry template => exact Work.entry_turns settings template store
  | compile template => exact Work.compile_turns exact template
  | html template values =>
      simp only [perform, log, asked, Work.html_cache]
      by_cases fits : slotCount template.fragments = values.length
      · simp only [if_pos fits]
        exact Work.compile_turns exact template
      · simp only [if_neg fits]
        exact .refl store.cache
  | create template values =>
      simp only [perform, log, asked, Work.createElement_cache]
      by_cases fits : slotCount template.fragments = values.length
      · simp only [if_pos fits]
        exact Work.entry_turns settings template store
      · simp only [if_neg fits]
        exact .refl store.cache

/-- The cache is exact after a request. -/
theorem exact {settings : Settings} {store : Store} (exact : store.cache.Exact)
    (request : StoreRequest)
    : (request.perform settings store).cache.Exact := by
  have lasting := Cache.Exact.lasting settings fun _ => True
  cases request with
  | serial => exact exact
  | entry template => exact lasting.entry trivial exact
  | compile template => exact lasting.compile trivial exact
  | html template values => exact lasting.html trivial exact
  | create template values => exact lasting.create trivial exact

/-- What happens for all requests accounts for what they change, by induction on them. -/
theorem turnsAll {settings : Settings} {store : Store} (exact : store.cache.Exact)
    (requests : List StoreRequest)
    : store.cache.Turns (performAll settings store requests).cache
        (logAll settings store requests) := by
  induction requests generalizing store with
  | nil => exact .refl store.cache
  | cons first rest ih => exact (first.turns exact).trans (ih (first.exact exact))

end StoreRequest

/-- A store that some requests lead to. -/
def Store.Requested (settings : Settings) (start store : Store) : Prop :=
  ∃ requests, StoreRequest.performAll settings start requests = store

namespace Store.Requested

variable {settings : Settings} {start store : Store}

theorem next (requested : Store.Requested settings start store) (request : StoreRequest)
    : Store.Requested settings start (request.perform settings store) := by
  obtain ⟨requests, rfl⟩ := requested
  exact ⟨requests ++ [request], List.foldl_append⟩

theorem parse (requested : Store.Requested settings start store) (template : Template)
    : Store.Requested settings start (Work.parse settings template store).2 := by
  rw [Work.parse_store]
  exact requested.next (.entry template)

/-- Binding values to fragments asks for a serial number at most. -/
theorem boundFragments (requested : Store.Requested settings start store)
    (fragments : List String) (values : List Value)
    : Store.Requested settings start
        (Work.markupOfFragments settings fragments values store).2 := by
  rcases Work.markupOfFragments_store settings fragments values store with same | counted
  · rw [same]
    exact requested
  · rw [counted]
    exact requested.next .serial

/-- The requests of code lead from stores to stores that requests lead to. -/
theorem answering (settings : Settings) (start : Store)
    : Store.Answering settings (fun _ => True) (fun _ => True)
        (fun store other => store = other ∧ Store.Requested settings start store) where
  serial := fun ⟨same, requested⟩ =>
    same ▸ ⟨_, _, _, rfl, rfl, ⟨rfl, requested.next .serial⟩, by simp⟩
  html {template values _ _} _ _ := fun ⟨same, requested⟩ =>
    same ▸ ⟨_, _, _, rfl, rfl, ⟨rfl, requested.next (.html template values)⟩, by simp⟩
  create {template values _ _} _ _ := fun ⟨same, requested⟩ =>
    same ▸ ⟨_, _, _, rfl, rfl, ⟨rfl, requested.next (.create template values)⟩, by simp⟩
  parse {template _ _} _ := fun ⟨same, requested⟩ =>
    same ▸ ⟨_, _, _, rfl, rfl, ⟨rfl, requested.parse template⟩, by simp⟩
  compile {template _ _} _ := fun ⟨same, requested⟩ =>
    same ▸ ⟨_, _, _, rfl, rfl, ⟨rfl, requested.next (.compile template)⟩, by simp⟩
  fragments := fun ⟨same, requested⟩ =>
    same ▸ ⟨_, _, _, rfl, rfl, ⟨rfl, requested.boundFragments _ _⟩, by simp⟩

/-- Renders inside one another change the store by the requests of their code only. -/
theorem rendered (host : Host) (settings : Settings) (plugins : Plugins) (levels : Nat)
    (request : RenderRequest) (store : Store)
    : Store.Requested settings store (host.render settings plugins levels request store).2 := by
  have renders := (answering settings store).renders host.keeps_true plugins levels
  obtain ⟨result, reached, -, left, -, ⟨-, later⟩, -⟩ :
      Work.Alike _ _ (host.render settings plugins levels request) _ store store :=
    renders request.within_true ⟨rfl, [], rfl⟩
  rw [left]
  exact later

/-- A render of a template begins with the request for it. -/
theorem renderedTemplate (engine : Engine) (host : Host) (static : Bool) (template : Template)
    (values : List Value)
    : ∃ nested,
        StoreRequest.performAll engine.settings engine.store
          (.html template (engine.plugins.applyBefore values) :: nested)
        = (engine.render host static template values).2.store := by
  simp only [Engine.render, Engine.perform_eq, Engine.doWork, ExceptT.run, Work.subject]
  cases binding
      : Work.html engine.settings template (engine.plugins.applyBefore values) engine.store with
  | mk result store =>
      have first
          : StoreRequest.performAll engine.settings engine.store
              [.html template (engine.plugins.applyBefore values)]
            = store :=
        congrArg Prod.snd binding
      cases result with
      | error error => exact ⟨[], first⟩
      | ok value =>
          obtain ⟨nested, leads⟩ := rendered host engine.settings engine.plugins
            (host.levels + 1) (.value static value) store
          refine ⟨nested, ?_⟩
          exact (congrArg (StoreRequest.performAll engine.settings · nested) first).trans leads

end Store.Requested

-----------------------------------------------------------------------------------------
-- Code
-----------------------------------------------------------------------------------------

/-- Whether some requests may be those that the engine makes for code. A render makes any. -/
def EngineRequest.Makes (requests : List StoreRequest) : EngineRequest → Prop
  | .settings => requests = []
  | .parse template => requests = [.entry template]
  | .compile template => requests = [.compile template]
  | .render _ => True

/-- Some requests may be those that code makes, in order. The requests of a render that it starts
are any that lead to its store.
-/
inductive Body.Makes {α : Type} (settings : Settings) (inner : RenderRequest → Work String)
    (contexts : String → Value)
    : Body α → Store → List StoreRequest → Prop
  | done {result : α} {store : Store} : Body.Makes settings inner contexts (.done result) store []
  | fail {error : Error} {store : Store} : Body.Makes settings inner contexts (.fail error) store []
  | context {name : String} {next : Value → Body α} {store : Store} {requests : List StoreRequest}
    (rest : Body.Makes settings inner contexts (next (contexts name)) store requests)
    : Body.Makes settings inner contexts (.context name next) store requests
  | serial {next : Nat → Body α} {store : Store} {requests : List StoreRequest}
    (rest
      : Body.Makes settings inner contexts (next store.nextSerial)
          (StoreRequest.serial.perform settings store) requests)
    : Body.Makes settings inner contexts (.serial next) store (.serial :: requests)
  | html {template : Template} {values : List Value} {next : Except Error Value → Body α}
    {store : Store} {requests : List StoreRequest}
    (rest
      : Body.Makes settings inner contexts (next (Work.html settings template values store).1)
          ((StoreRequest.html template values).perform settings store) requests)
    : Body.Makes settings inner contexts (.html template values next) store
        (.html template values :: requests)
  | create {template : Template} {values : List Value} {next : Except Error Value → Body α}
    {store : Store} {requests : List StoreRequest}
    (rest
      : Body.Makes settings inner contexts
          (next (Work.createElement settings template values store).1)
          ((StoreRequest.create template values).perform settings store) requests)
    : Body.Makes settings inner contexts (.create template values next) store
        (.create template values :: requests)
  | ask {request : EngineRequest} {next : request.Answer → Body α} {store later : Store}
    {answer : request.Answer} {first requests : List StoreRequest}
    (answers : request.perform settings inner store = (.ok answer, later))
    (makes : request.Makes first)
    (leads : StoreRequest.performAll settings store first = later)
    (rest : Body.Makes settings inner contexts (next answer) later requests)
    : Body.Makes settings inner contexts (.ask request next) store (first ++ requests)

section

variable {settings : Settings} {inner : RenderRequest → Work String} {contexts : String → Value}

/-- Code changes the store by its requests and by nothing else, by induction on them. -/
theorem Body.Makes.run {α : Type} {body : Body α} {store : Store} {requests : List StoreRequest}
    (makes : body.Makes settings inner contexts store requests)
    : StoreRequest.performAll settings store requests
      = (body.run settings inner contexts store).2 := by
  induction makes with
  | done | fail => rfl
  | context _ ih => exact ih
  | serial _ ih => exact ih
  | html _ ih | create _ ih =>
      simp only [Body.run, bind_apply, Work.outcome]
      exact ih
  | ask answers _ leads _ ih =>
      simp only [Body.run, bind_apply, answers]
      rw [← ih, ← leads]
      exact List.foldl_append

/-- The engine answers every request of code. -/
theorem EngineRequest.performed
    (renders : ∀ request store, Store.Requested settings store (inner request store).2)
    (request : EngineRequest) (store : Store)
    : ∃ answer later first,
        request.perform settings inner store = (.ok answer, later)
        ∧ request.Makes first
        ∧ StoreRequest.performAll settings store first = later := by
  cases request with
  | settings => exact ⟨settings, store, [], rfl, rfl, rfl⟩
  | parse template =>
      exact ⟨_, _, [.entry template], rfl, rfl, (Work.parse_store settings template store).symm⟩
  | compile template => exact ⟨_, _, [.compile template], rfl, rfl, rfl⟩
  | render request =>
      obtain ⟨first, leads⟩ := renders request store
      exact ⟨_, _, first, rfl, trivial, leads⟩

/-- There are requests that code makes, by induction on it. -/
theorem Body.exists_makes {α : Type}
    (renders : ∀ request store, Store.Requested settings store (inner request store).2)
    (body : Body α) (store : Store)
    : ∃ requests, body.Makes settings inner contexts store requests := by
  induction body generalizing store with
  | done | fail => exact ⟨[], by constructor⟩
  | context name next ih =>
      obtain ⟨requests, makes⟩ := ih (contexts name) store
      exact ⟨requests, .context makes⟩
  | serial next ih =>
      obtain ⟨requests, makes⟩ := ih store.nextSerial (StoreRequest.serial.perform settings store)
      exact ⟨_, .serial makes⟩
  | html template values next ih =>
      obtain ⟨requests, makes⟩ := ih (Work.html settings template values store).1
        ((StoreRequest.html template values).perform settings store)
      exact ⟨_, .html makes⟩
  | create template values next ih =>
      obtain ⟨requests, makes⟩ := ih (Work.createElement settings template values store).1
        ((StoreRequest.create template values).perform settings store)
      exact ⟨_, .create makes⟩
  | ask request next ih =>
      obtain ⟨answer, later, first, answers, makes, leads⟩ := request.performed renders store
      obtain ⟨requests, rest⟩ := ih answer later
      exact ⟨_, .ask answers makes leads rest⟩

end

-----------------------------------------------------------------------------------------
-- Sessions
-----------------------------------------------------------------------------------------

namespace Engine

/-- What happens to the templates that depend on a name when a component is registered for it. -/
def registerOneLog (engine : Engine) (name : String) (component : Component)
    : List CacheEvent :=
  if engine.settings.registry.find? name = some component then
    []
  else
    ((engine.store.cache.dependents name).map Prod.fst).map .invalidated

/-- What happens to the templates when components are registered, up to the first that is refused.
-/
def registerLog (engine : Engine) : List (String × Component) → List CacheEvent
  | [] => []
  | (name, component) :: rest =>
      match engine.registerOne name component with
      | .error _ => []
      | .ok changed => engine.registerOneLog name component ++ changed.registerLog rest

/-- What happens to the templates when all are removed. -/
def clearLog (engine : Engine) : List CacheEvent :=
  (engine.store.cache.entries.map Prod.fst).map .cleared

theorem registerOne_turns {engine changed : Engine} (exact : engine.store.cache.Exact)
    {name : String} {component : Component}
    (registers : engine.registerOne name component = .ok changed)
    : engine.store.cache.Turns changed.store.cache (engine.registerOneLog name component) := by
  rw [registerOne_cache registers, registerOneLog]
  split
  · exact .refl engine.store.cache
  · obtain ⟨entries, stats, -⟩ := exact.invalidate name
    apply Cache.Turns.removed CacheEvent.removes_invalidated exact.distinct
    · rw [entries]
      simp only [decide_not]
    · rw [CacheEvent.countP_all (fun _ => rfl), List.length_map]
      exact stats

/-- Registering components keeps the cache exact, and what happens to the templates accounts for
what it changes. The induction is on the components.
-/
theorem register_turns {engine : Engine} (exact : engine.store.cache.Exact)
    (components : List (String × Component))
    : engine.store.cache.Turns (engine.register components).2.store.cache
        (engine.registerLog components) := by
  induction components generalizing engine with
  | nil => exact .refl engine.store.cache
  | cons first rest ih =>
      obtain ⟨name, component⟩ := first
      simp only [register, registerLog]
      cases registers : engine.registerOne name component with
      | error error => exact .refl engine.store.cache
      | ok changed =>
          have exactThen := (Cache.Exact.invariant fun _ => True).registered exact registers
          exact (registerOne_turns exact registers).trans (ih exactThen)

theorem clear_turns {engine : Engine} (exact : engine.store.cache.Exact)
    : engine.store.cache.Turns engine.clearCache.store.cache engine.clearLog := by
  have all : engine.store.cache.entries.filter (fun _ => true) = engine.store.cache.entries :=
    List.filter_eq_self.mpr fun _ _ => rfl
  have turns := @Cache.Turns.removed engine.store.cache engine.store.cache.clear _
    CacheEvent.removes_cleared exact.distinct (fun _ => true)
  rw [all] at turns
  apply turns
  · simp [Cache.clear]
  · rw [CacheEvent.countP_none fun _ => rfl]
    rfl

end Engine

namespace EngineStep

/-- Whether some requests may be those that a step makes. The code of a render makes any. -/
def Makes (host : Host) (engine : Engine) (requests : List StoreRequest) : EngineStep → Prop
  | .register _ | .plug _ | .clear => requests = []
  | .parse template => requests = [.entry template]
  | .compile template => requests = [.compile template]
  | .html template values => requests = [.html template values]
  | .createElement template values => requests = [.create template values]
  | .run body =>
      body.Makes engine.settings (host.render engine.settings engine.plugins host.levels)
        host.contextDefault engine.store requests
  | .render _ template values =>
      ∃ nested, requests = .html template (engine.plugins.applyBefore values) :: nested
  | .renderValue _ _ | .renderFragments _ _ => True

/-- Some events are what happens to the templates of an engine in a step. The requests of a render
are any that lead to its store.
-/
def Logs (host : Host) (engine : Engine) (log : List CacheEvent) : EngineStep → Prop
  | .register components => log = engine.registerLog components
  | .clear => log = engine.clearLog
  | step =>
      ∃ requests,
        step.Makes host engine requests
        ∧ StoreRequest.performAll engine.settings engine.store requests
          = (step.after host engine).store
        ∧ log = StoreRequest.logAll engine.settings engine.store requests

theorem exists_log (host : Host) (engine : Engine) (step : EngineStep)
    : ∃ log, step.Logs host engine log := by
  cases step with
  | register components => exact ⟨_, rfl⟩
  | clear => exact ⟨_, rfl⟩
  | plug plugins => exact ⟨_, [], rfl, rfl, rfl⟩
  | parse template => exact ⟨_, _, rfl, rfl, rfl⟩
  | compile template => exact ⟨_, _, rfl, rfl, rfl⟩
  | html template values => exact ⟨_, _, rfl, rfl, rfl⟩
  | createElement template values => exact ⟨_, _, rfl, rfl, rfl⟩
  | run body =>
      have renders := Store.Requested.rendered host engine.settings engine.plugins host.levels
      obtain ⟨requests, makes⟩ := body.exists_makes renders engine.store
      exact ⟨_, requests, makes, makes.run, rfl⟩
  | renderValue static value =>
      obtain ⟨requests, leads⟩ := Store.Requested.rendered host engine.settings engine.plugins
        (host.levels + 1) (.value static value) engine.store
      exact ⟨_, requests, trivial, leads, rfl⟩
  | render static template values =>
      obtain ⟨nested, leads⟩ := Store.Requested.renderedTemplate engine host static template values
      exact ⟨_, _, ⟨nested, rfl⟩, leads, rfl⟩
  | renderFragments fragments values =>
      obtain ⟨requests, leads⟩ := Store.Requested.rendered host engine.settings engine.plugins
        (host.levels + 1) (.fragments fragments values) engine.store
      exact ⟨_, requests, trivial, leads, rfl⟩

/-- What happens to the templates in a step accounts for what the step changes. -/
theorem turns {host : Host} {engine : Engine} (exact : engine.store.cache.Exact)
    {step : EngineStep} {log : List CacheEvent} (logs : step.Logs host engine log)
    : engine.store.cache.Turns (step.after host engine).store.cache log := by
  cases step with
  | register components =>
      obtain rfl := logs
      exact Engine.register_turns exact components
  | clear =>
      obtain rfl := logs
      exact Engine.clear_turns exact
  | _ =>
      obtain ⟨requests, -, leads, rfl⟩ := logs
      rw [← leads]
      exact StoreRequest.turnsAll exact requests

end EngineStep

namespace Engine

/-- The states of an engine with what has happened to the templates since it was new. -/
inductive Session (host : Host) : Engine → List CacheEvent → Prop
  | start (options : Options) : Session host (Engine.ofOptions options) []
  | step {engine : Engine} {log more : List CacheEvent} (before : Session host engine log)
    {step : EngineStep} (logs : step.Logs host engine more)
    : Session host (step.after host engine) (log ++ more)

namespace Session

variable {host : Host} {engine : Engine} {log : List CacheEvent}

theorem reachable (session : Session host engine log)
    : Engine.Reachable host (fun _ => True) engine := by
  induction session with
  | start options => exact .start options
  | @step _ _ _ _ step _ ih => exact ih.step step.within_true

/-- Something has happened in every state that an engine can come to. -/
theorem of_reachable (reached : Engine.Reachable host (fun _ => True) engine)
    : ∃ log, Session host engine log := by
  induction reached with
  | start options => exact ⟨[], .start options⟩
  | @step engine _ step _ ih =>
      obtain ⟨log, before⟩ := ih
      obtain ⟨more, logs⟩ := step.exists_log host engine
      exact ⟨log ++ more, before.step logs⟩

/-- What has happened accounts for the cache, by induction on the steps. -/
theorem turns (session : Session host engine log)
    : Cache.Turns {} engine.store.cache log := by
  induction session with
  | start options => exact .refl {}
  | step before logs ih =>
      have exact :=
        (Cache.Exact.invariant fun _ => True).reachable host.keeps_true before.reachable
      exact ih.trans (EngineStep.turns exact logs)

end Session

/-- The counters of an engine count what has happened to its templates. As long as a template is
not removed, it is read once at most and compiled once at most.
-/
structure Accounted (engine : Engine) (log : List CacheEvent) : Prop where
  hits : engine.store.cache.stats.hits = log.countP CacheEvent.isHit
  parses : engine.store.cache.stats.parses = log.countP CacheEvent.isParsed
  compiles : engine.store.cache.stats.compiles = log.countP CacheEvent.isCompiled
  invalidations
    : engine.store.cache.stats.invalidations = log.countP CacheEvent.isInvalidated
  cached
    : engine.store.cache.size + log.countP CacheEvent.isRemoval
      = log.countP CacheEvent.isParsed
  once
    : ∀ id before between after,
        log = before ++ between ++ after
        → (∀ event ∈ between, event.isRemoval = true → event.id ≠ id)
        → between.count (.parsed id) ≤ 1 ∧ between.count (.compiled id) ≤ 1
  compilesBound : engine.store.cache.stats.compiles ≤ engine.store.cache.stats.parses
  cachedBound
    : engine.store.cache.size + engine.store.cache.stats.invalidations
      ≤ engine.store.cache.stats.parses

theorem Session.accounted {host : Host} {engine : Engine} {log : List CacheEvent}
    (session : Session host engine log)
    : engine.Accounted log := by
  have turns := session.turns
  have hits : engine.store.cache.stats.hits = log.countP CacheEvent.isHit :=
    turns.hits.trans (Nat.zero_add _)
  have parses : engine.store.cache.stats.parses = log.countP CacheEvent.isParsed :=
    turns.parses.trans (Nat.zero_add _)
  have compiles : engine.store.cache.stats.compiles = log.countP CacheEvent.isCompiled :=
    turns.compiles.trans (Nat.zero_add _)
  have invalidations
      : engine.store.cache.stats.invalidations = log.countP CacheEvent.isInvalidated :=
    turns.invalidations.trans (Nat.zero_add _)
  have cached
      : engine.store.cache.size + log.countP CacheEvent.isRemoval
        = log.countP CacheEvent.isParsed :=
    turns.size.trans (Nat.zero_add _)
  have pending
      : engine.store.cache.pending + log.countP CacheEvent.isCompiled
        ≤ log.countP CacheEvent.isParsed :=
    Nat.le_trans turns.pending (Nat.le_of_eq (Nat.zero_add _))
  refine ⟨hits, parses, compiles, invalidations, cached, ?_, ?_, ?_⟩
  · rintro id before between after rfl kept
    -- The log is possible as a whole, so its middle is possible from where its beginning leads.
    have lives := turns.lives id
    rw [List.foldlM_append, List.foldlM_append] at lives
    obtain ⟨last, passed, -⟩ := Option.bind_eq_some_iff.mp lives
    obtain ⟨first, -, between⟩ := Option.bind_eq_some_iff.mp passed
    obtain ⟨parsed, compiled⟩ := CacheEvent.once kept between
    constructor
    · exact Nat.le_trans parsed (by split <;> simp)
    · exact Nat.le_trans compiled (by split <;> simp)
  · rw [compiles, parses]
    exact Nat.le_trans (Nat.le_add_left ..) pending
  · rw [invalidations, parses, ← cached]
    exact Nat.add_le_add_left (CacheEvent.invalidated_le log) _

/-- Work is done once in the life of a template, and the counters account for it in every state
that an engine can come to. Looking a template up or reading it counts once, for every request.
-/
theorem work_accounted {host : Host} {engine : Engine}
    (reached : Engine.Reachable host (fun _ => True) engine)
    : (∃ log, Session host engine log)
      ∧ (∀ log, Session host engine log → engine.Accounted log)
      ∧ ∀ store (request : StoreRequest),
          (request.perform engine.settings store).cache.stats.hits
              + (request.perform engine.settings store).cache.stats.parses
          = store.cache.stats.hits + store.cache.stats.parses
              + if request.finds engine.settings store then 1 else 0 := by
  refine ⟨Session.of_reachable reached, ?_, ?_⟩
  · intro log session
    exact session.accounted
  · intro store request
    exact request.perform_counted engine.settings store

/-- The one function uses a template of its own. -/
def cardHost : Host :=
  { Host.constant fun _ => .undefined with
    function := fun _ _ => .html ⟨1, ["<b></b>"]⟩ [] .ofAnswer }

/-- A template makes elements, is rendered twice and is rendered again after its component means
something else. The code of the component uses another template in the two first renders.
-/
def cardEngine : Engine :=
  [.register [("Card", .function 0)], .createElement ⟨0, ["<Card></Card>"]⟩ [],
    .render false ⟨0, ["<Card></Card>"]⟩ [], .render false ⟨0, ["<Card></Card>"]⟩ [],
    .register [("Card", .alias "section")], .render false ⟨0, ["<Card></Card>"]⟩ []].foldl
    (EngineStep.after cardHost) (Engine.ofOptions {})

/-- The first template is read and compiled twice, and the second one once. -/
theorem work_accounted_card
    : ((∃ log, Session cardHost cardEngine log)
        ∧ (∀ log, Session cardHost cardEngine log → cardEngine.Accounted log)
        ∧ ∀ store (request : StoreRequest),
            (request.perform cardEngine.settings store).cache.stats.hits
                + (request.perform cardEngine.settings store).cache.stats.parses
            = store.cache.stats.hits + store.cache.stats.parses
                + if request.finds cardEngine.settings store then 1 else 0)
      ∧ cardEngine.store.cache.stats
        = { hits := 3, parses := 3, compiles := 3, invalidations := 1 }
      ∧ cardEngine.store.cache.size = 2 :=
  ⟨work_accounted ((Reachable.start {}).foldl _), by decide +kernel, by decide +kernel⟩

end Engine

end TaggedMarkup
