import TaggedMarkup.Proofs.Caching.Index
import TaggedMarkup.Proofs.Requests

/-! Work on the cache in closed form. A template that is in the cache is used as it is, and any
other one is read first. A property of stores that survives the four changes which this can
make survives all work and all code.
-/

namespace TaggedMarkup

open Stateful

/-- The compiled form in an entry, if it has one, is the form of its tree. -/
def CacheEntry.Compiles (entry : CacheEntry) : Prop :=
  ∀ compiled,
    entry.compiled = some compiled
    → Compiled.ofTree entry.tree entry.components = .ok compiled

/-- An entry that has just been read has no compiled form. -/
theorem CacheEntry.compiles_ofTree (registry : Registry) (tree : Tree) (serial : Nat)
    : CacheEntry.Compiles { CacheEntry.ofTree registry tree with serial } := by
  intro compiled isCompiled
  simp [CacheEntry.ofTree] at isCompiled

/-- An entry holds what reading the fragments gives now. -/
structure CacheEntry.Fresh (entry : CacheEntry) (settings : Settings)
    (fragments : List String)
    : Prop where
  tree
    : Tree.parse settings.registry.resolver settings.options.read fragments = .ok entry.tree
  components : entry.components = settings.registry.componentsOf entry.tree

namespace Work

variable {settings : Settings}

abbrev withCache (store : Store) (cache : Cache) : Store :=
  { store with cache }

/-- The entry of a template is the one in the cache, or what reading the fragments gives. -/
theorem entry_apply (settings : Settings) (template : Template) (store : Store)
    : entry settings template store
      = match store.cache.find? template.id with
        | some found => (.ok found, withCache store store.cache.countHit)
        | none =>
            match Tree.parse settings.registry.resolver settings.options.read
                template.fragments with
            | .error error => (.error error, store)
            | .ok tree =>
                let added := store.cache.insert template.id (.ofTree settings.registry tree)
                (.ok added.1, withCache store added.2) := by
  simp only [entry, bind_apply, get_apply, Cache.lookup]
  cases store.cache.find? template.id with
  | some found => rfl
  | none =>
      simp only [bind_apply, parseFragments]
      cases Tree.parse settings.registry.resolver settings.options.read template.fragments <;>
        rfl

/-- A template is compiled unless its entry has a compiled form, and it is dropped when that
fails.
-/
theorem compile_apply (settings : Settings) (template : Template) (store : Store)
    : compile settings template store
      = match entry settings template store with
        | (.error error, reached) => (.error error, reached)
        | (.ok found, reached) =>
            match found.compiled with
            | some compiled => (.ok compiled, reached)
            | none =>
                match Compiled.ofTree found.tree found.components with
                | .ok compiled =>
                    (.ok compiled,
                      withCache reached
                        (reached.cache.countCompile.setCompiled template.id compiled))
                | .error error =>
                    (.error error,
                      withCache reached (reached.cache.remove template.id).2) := by
  simp only [compile, bind_apply]
  cases entry settings template store with
  | mk result reached =>
      cases result with
      | error error => rfl
      | ok found =>
          simp only
          cases found.compiled with
          | some compiled => rfl
          | none => cases Compiled.ofTree found.tree found.components <;> rfl

/-- An entry that has been asked for is in the cache. -/
theorem entry_found {template : Template} {store reached : Store} {found : CacheEntry}
    (asked : entry settings template store = (.ok found, reached))
    : reached.cache.find? template.id = some found := by
  rw [entry_apply] at asked
  split at asked
  next entry cached =>
      obtain ⟨same, rfl⟩ := Prod.mk.inj asked
      exact Except.ok.inj same ▸ cached
  next =>
      split at asked
      next => cases (Prod.mk.inj asked).1
      next =>
          obtain ⟨same, rfl⟩ := Prod.mk.inj asked
          rw [← Except.ok.inj same]
          exact (Cache.find?_insert ..).trans (if_pos rfl)

/-- A number of values is checked without a change. -/
theorem checkCount_apply (expected received : Nat) (store : Store)
    : checkCount expected received store
      = (if expected = received then
            .ok ()
          else
            .error (.valueCountMismatch expected received),
          store) := by
  simp only [checkCount]
  split <;> rfl

/-- Work goes on behind a check if the values are as many as expected. -/
theorem checkCount_bind {α : Type} (expected received : Nat) (next : Unit → Work α) (store : Store)
    : (checkCount expected received >>= next) store
      = if expected = received then
          next () store
        else
          (.error (.valueCountMismatch expected received), store) := by
  by_cases same : expected = received <;> simp [bind_apply, checkCount_apply, same]

theorem bind_eq (template : Compiled) (values : List Value) (store : Store)
    : bind template values store
      = (.ok { serial := store.nextSerial, template, values, entry := none },
          { store with nextSerial := store.nextSerial + 1 }) :=
  rfl

/-- Values are bound to the compiled form of a template. -/
theorem markup_apply (settings : Settings) (template : Template) (values : List Value)
    (store : Store)
    : markup settings template values store
      = if slotCount template.fragments = values.length then
          match compile settings template store with
          | (.ok form, reached) => bind form values reached
          | (.error error, reached) => (.error error, reached)
        else
          (.error (.valueCountMismatch (slotCount template.fragments) values.length), store) := by
  rw [markup, checkCount_bind, bind_apply]
  cases compile settings template store with
  | mk result reached => cases result <;> rfl

/-- A template to which values are bound has as many slots as there are values, and it can be
compiled.
-/
theorem markup_ok {template : Template} {values : List Value} {store reached : Store}
    {node : Markup} (bound : markup settings template values store = (.ok node, reached))
    : slotCount template.fragments = values.length
      ∧ ∃ form stored,
          compile settings template store = (.ok form, stored)
          ∧ node = { serial := stored.nextSerial, template := form, values, entry := none }
          ∧ reached = { stored with nextSerial := stored.nextSerial + 1 } := by
  rw [markup_apply] at bound
  split at bound
  next counted =>
      split at bound
      next form stored compiled =>
          obtain ⟨isNode, isReached⟩ := Prod.mk.inj bound
          exact ⟨counted, form, stored, compiled, (Except.ok.inj isNode).symm, isReached.symm⟩
      next => cases (Prod.mk.inj bound).1
  next => cases (Prod.mk.inj bound).1

theorem html_store (settings : Settings) (template : Template) (values : List Value)
    (store : Store)
    : (html settings template values store).2 = (markup settings template values store).2 := by
  simp only [html, bind_apply]
  cases markup settings template values store with
  | mk result reached => cases result <;> rfl

/-- A template with its values is a bound template as a value. -/
theorem html_ok {template : Template} {values : List Value} {store reached : Store}
    {value : Value} (answered : html settings template values store = (.ok value, reached))
    : ∃ node,
        markup settings template values store = (.ok node, reached) ∧ value = .markup node := by
  simp only [html, bind_apply] at answered
  cases bound : markup settings template values store with
  | mk result middle =>
      rw [bound] at answered
      cases result with
      | error error => cases (Prod.mk.inj answered).1
      | ok node =>
          obtain ⟨same, rfl⟩ := Prod.mk.inj answered
          exact ⟨node, rfl, (Except.ok.inj same).symm⟩

/-- Elements are made from the tree of a template. -/
theorem createElement_apply (settings : Settings) (template : Template) (values : List Value)
    (store : Store)
    : createElement settings template values store
      = if slotCount template.fragments = values.length then
          match entry settings template store with
          | (.ok found, reached) =>
              (.ok
                  (ElementGraph.build found.tree
                    { serial := reached.nextSerial, components := found.components, values }),
                { reached with nextSerial := reached.nextSerial + 1 })
          | (.error error, reached) => (.error error, reached)
        else
          (.error (.valueCountMismatch (slotCount template.fragments) values.length), store) := by
  rw [createElement, checkCount_bind, bind_apply]
  cases entry settings template store with
  | mk result reached => cases result <;> rfl

theorem parse_store (settings : Settings) (template : Template) (store : Store)
    : (parse settings template store).2 = (entry settings template store).2 := by
  simp only [parse, bind_apply]
  cases entry settings template store with
  | mk result reached => cases result <;> rfl

/-- What fragments compile to when they are read anew. -/
def formOf (settings : Settings) (fragments : List String) : Except Error Compiled :=
  match Tree.parse settings.registry.resolver settings.options.read fragments with
  | .ok tree => Compiled.ofTree tree (settings.registry.componentsOf tree)
  | .error error => .error error

/-- Values are bound to what the fragments compile to. -/
theorem markupOfFragments_apply (settings : Settings) (fragments : List String)
    (values : List Value) (store : Store)
    : markupOfFragments settings fragments values store
      = if slotCount fragments = values.length then
          match formOf settings fragments with
          | .ok form => bind form values store
          | .error error => (.error error, store)
        else
          (.error (.valueCountMismatch (slotCount fragments) values.length), store) := by
  rw [markupOfFragments, checkCount_bind]
  simp only [bind_apply, parseFragments, formOf]
  cases Tree.parse settings.registry.resolver settings.options.read fragments with
  | error error => rfl
  | ok tree =>
      simp only [pure_apply]
      cases Compiled.ofTree tree (settings.registry.componentsOf tree) <;> rfl

/-- Fragments to which values are bound have as many slots as there are values, and they can be
read and compiled.
-/
theorem markupOfFragments_ok {fragments : List String} {values : List Value} {store reached : Store}
    {node : Markup}
    (bound : markupOfFragments settings fragments values store = (.ok node, reached))
    : slotCount fragments = values.length
      ∧ ∃ tree form,
          Tree.parse settings.registry.resolver settings.options.read fragments = .ok tree
          ∧ Compiled.ofTree tree (settings.registry.componentsOf tree) = .ok form
          ∧ node = { serial := store.nextSerial, template := form, values, entry := none }
          ∧ reached = { store with nextSerial := store.nextSerial + 1 } := by
  rw [markupOfFragments_apply] at bound
  split at bound
  next counted =>
      refine ⟨counted, ?_⟩
      simp only [formOf] at bound
      cases parsed : Tree.parse settings.registry.resolver settings.options.read fragments with
      | error error =>
          rw [parsed] at bound
          cases (Prod.mk.inj bound).1
      | ok tree =>
          rw [parsed] at bound
          cases compiled : Compiled.ofTree tree (settings.registry.componentsOf tree) with
          | error error =>
              simp only [compiled] at bound
              cases (Prod.mk.inj bound).1
          | ok form =>
              simp only [compiled] at bound
              obtain ⟨isNode, isReached⟩ := Prod.mk.inj bound
              exact ⟨tree, form, rfl, compiled, (Except.ok.inj isNode).symm, isReached.symm⟩
  next => cases (Prod.mk.inj bound).1

/-- Binding values to fragments changes nothing but the next serial number. -/
theorem markupOfFragments_store (settings : Settings) (fragments : List String)
    (values : List Value) (store : Store)
    : (markupOfFragments settings fragments values store).2 = store
      ∨ (markupOfFragments settings fragments values store).2
        = { store with nextSerial := store.nextSerial + 1 } := by
  rw [markupOfFragments_apply]
  split
  · cases formOf settings fragments with
    | error error => exact .inl rfl
    | ok form => exact .inr rfl
  · exact .inl rfl

end Work

-----------------------------------------------------------------------------------------
-- Properties of stores
-----------------------------------------------------------------------------------------

/-- A property of stores survives every change that the use of templates makes. -/
structure Store.Lasting (settings : Settings) (known : Template → Prop)
    (holds : Store → Prop)
    : Prop where
  serial : ∀ {store}, holds store → holds { store with nextSerial := store.nextSerial + 1 }
  hit : ∀ {store}, holds store → holds { store with cache := store.cache.countHit }
  read
    : ∀ {store template tree},
        holds store
        → known template
        → store.cache.find? template.id = none
        → Tree.parse settings.registry.resolver settings.options.read template.fragments
          = .ok tree
        → holds
            { store with
              cache := (store.cache.insert template.id (.ofTree settings.registry tree)).2 }
  compiled
    : ∀ {store id entry compiled},
        holds store
        → store.cache.find? id = some entry
        → Compiled.ofTree entry.tree entry.components = .ok compiled
        → holds { store with cache := store.cache.countCompile.setCompiled id compiled }
  dropped
    : ∀ {store id}, holds store → holds { store with cache := (store.cache.remove id).2 }

namespace Store.Lasting

variable {settings : Settings} {known : Template → Prop} {holds : Store → Prop}

theorem entry (lasting : Store.Lasting settings known holds) {template : Template}
    {store : Store} (isKnown : known template) (now : holds store)
    : holds (Work.entry settings template store).2 := by
  rw [Work.entry_apply]
  split
  next => exact lasting.hit now
  next absent =>
      split
      next => exact now
      next tree parsed => exact lasting.read now isKnown absent parsed

theorem compile (lasting : Store.Lasting settings known holds) {template : Template}
    {store : Store} (isKnown : known template) (now : holds store)
    : holds (Work.compile settings template store).2 := by
  have asked := lasting.entry isKnown now
  rw [Work.compile_apply]
  cases reading : Work.entry settings template store with
  | mk result reached =>
      rw [reading] at asked
      cases result with
      | error error => exact asked
      | ok found =>
          simp only
          split
          next => exact asked
          next =>
              split
              next compiled => exact lasting.compiled asked (Work.entry_found reading) compiled
              next => exact lasting.dropped asked

theorem markup (lasting : Store.Lasting settings known holds) {template : Template}
    {values : List Value} {store : Store} (isKnown : known template) (now : holds store)
    : holds (Work.markup settings template values store).2 := by
  have compiled := lasting.compile isKnown now
  simp only [Work.markup, bind_apply, Work.checkCount_apply]
  split
  next counted =>
      split at counted
      · obtain ⟨-, rfl⟩ := Prod.mk.inj counted
        cases compiling : Work.compile settings template store with
        | mk result reached =>
            rw [compiling] at compiled
            cases result with
            | error error => exact compiled
            | ok form => exact lasting.serial compiled
      · simp at counted
  next counted =>
      obtain ⟨-, rfl⟩ := Prod.mk.inj counted
      exact now

theorem parse (lasting : Store.Lasting settings known holds) {template : Template}
    {store : Store} (isKnown : known template) (now : holds store)
    : holds (Work.parse settings template store).2 := by
  rw [Work.parse_store]
  exact lasting.entry isKnown now

theorem fragments (lasting : Store.Lasting settings known holds) {fragments : List String}
    {values : List Value} {store : Store} (now : holds store)
    : holds (Work.markupOfFragments settings fragments values store).2 := by
  rcases Work.markupOfFragments_store settings fragments values store with same | counted
  · rw [same]
    exact now
  · rw [counted]
    exact lasting.serial now

/-- The property survives a request for a bound template. -/
theorem html (lasting : Store.Lasting settings known holds) {template : Template}
    {values : List Value} {store : Store} (isKnown : known template) (now : holds store)
    : holds (Work.html settings template values store).2 := by
  rw [Work.html_store]
  exact lasting.markup isKnown now

theorem create (lasting : Store.Lasting settings known holds) {template : Template}
    {values : List Value} {store : Store} (isKnown : known template) (now : holds store)
    : holds (Work.createElement settings template values store).2 := by
  have asked := lasting.entry isKnown now
  simp only [Work.createElement, bind_apply, Work.checkCount_apply]
  split
  next counted =>
      obtain ⟨-, rfl⟩ := Prod.mk.inj counted
      cases reading : Work.entry settings template store with
      | mk result reached =>
          rw [reading] at asked
          cases result with
          | error error => exact asked
          | ok found => exact lasting.serial asked
  next counted =>
      obtain ⟨-, rfl⟩ := Prod.mk.inj counted
      exact now

/-- One store with a lasting property answers the requests of code like itself, and with good
values when the bound templates and the elements that it gives out are good.
-/
theorem answering (lasting : Store.Lasting settings known holds) {good : Value → Prop}
    (html
      : ∀ {template values store reached value},
          known template
          → (∀ value ∈ values, good value)
          → holds store
          → Work.html settings template values store = (.ok value, reached)
          → good value)
    (create
      : ∀ {template values store reached value},
          known template
          → (∀ value ∈ values, good value)
          → holds store
          → Work.createElement settings template values store = (.ok value, reached)
          → good value)
    : Store.Answering settings good known (fun store other => store = other ∧ holds store) where
  serial {store _} := fun ⟨same, now⟩ =>
    same ▸ ⟨_, _, _, rfl, rfl, ⟨rfl, lasting.serial now⟩, by simp⟩
  html {template values store _} isKnown given := fun ⟨same, now⟩ =>
    same ▸ ⟨_, _, _, rfl, rfl, ⟨rfl, lasting.html isKnown now⟩,
      fun _ yields => html isKnown given now (Prod.ext yields rfl)⟩
  create {template values store _} isKnown given := fun ⟨same, now⟩ =>
    same ▸ ⟨_, _, _, rfl, rfl, ⟨rfl, lasting.create isKnown now⟩,
      fun _ yields => create isKnown given now (Prod.ext yields rfl)⟩
  parse isKnown := fun ⟨same, now⟩ =>
    same ▸ ⟨_, _, _, rfl, rfl, ⟨rfl, lasting.parse isKnown now⟩, by simp⟩
  compile isKnown := fun ⟨same, now⟩ =>
    same ▸ ⟨_, _, _, rfl, rfl, ⟨rfl, lasting.compile isKnown now⟩, by simp⟩
  fragments := fun ⟨same, now⟩ =>
    same ▸ ⟨_, _, _, rfl, rfl, ⟨rfl, lasting.fragments now⟩, by simp⟩

theorem answering_true (lasting : Store.Lasting settings known holds)
    : Store.Answering settings (fun _ => True) known
        (fun store other => store = other ∧ holds store) :=
  lasting.answering (fun _ _ _ _ => trivial) (fun _ _ _ _ => trivial)

end Store.Lasting

end TaggedMarkup
