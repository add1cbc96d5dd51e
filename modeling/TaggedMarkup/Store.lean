import TaggedMarkup.Cache
import TaggedMarkup.ElementGraph

/-! Templates are read and compiled when they are first used. The settings stay the same
during a render; the store is what the use of templates changes.
-/

namespace TaggedMarkup

structure Settings where
  registry : Registry := {}
  options : Options := {}

/-- The cache, and the serial number of the next function, element or bound template. -/
structure Store where
  cache : Cache := {}
  nextSerial : Nat := 0

/-- Work that changes the store, also when it fails. -/
abbrev Work := ExceptT Error (StateM Store)

namespace Work

/-- A serial number that has not been used. -/
def freshSerial : Work Nat := do
  let store ← get
  set { store with nextSerial := store.nextSerial + 1 }
  return store.nextSerial

/-- What the work comes to, be it a result or a failure. The store stays changed. -/
def outcome {α : Type} (work : Work α) : Work (Except Error α) :=
  fun store =>
    let (result, changed) := work store
    (.ok result, changed)

def changeCache (change : Cache → Cache) : Work Unit :=
  modify fun store => { store with cache := change store.cache }

/-- Refuses a number of values other than the number of slots. -/
def checkCount (expected received : Nat) : Work Unit :=
  if expected = received then
    pure ()
  else
    throw (.valueCountMismatch expected received)

def parseFragments (settings : Settings) (fragments : List String) : Work Tree :=
  match Tree.parse settings.registry.resolver settings.options.read fragments with
  | .ok tree => pure tree
  | .error error => throw error

/-- The entry of a template, which is read when the cache does not have it. -/
def entry (settings : Settings) (template : Template) : Work CacheEntry := do
  let store ← get
  match store.cache.lookup template.id with
  | (some found, cache) =>
      set { store with cache }
      return found
  | (none, _) =>
      let tree ← parseFragments settings template.fragments
      let (added, cache) := store.cache.insert template.id (.ofTree settings.registry tree)
      set { store with cache }
      return added

def parse (settings : Settings) (template : Template) : Work Tree := do
  let found ← entry settings template
  return found.tree

/-- The compiled form of a template. A template that cannot be compiled is dropped from the
cache. -/
def compile (settings : Settings) (template : Template) : Work Compiled := do
  let found ← entry settings template
  match found.compiled with
  | some compiled => return compiled
  | none =>
      match Compiled.ofTree found.tree found.components with
      | .ok compiled =>
          changeCache fun cache => cache.countCompile.setCompiled template.id compiled
          return compiled
      | .error error =>
          changeCache fun cache => (cache.remove template.id).2
          throw error

def bind (template : Compiled) (values : List Value) : Work Markup := do
  let serial ← freshSerial
  return { serial, template, values, entry := none }

def markup (settings : Settings) (template : Template) (values : List Value) : Work Markup := do
  checkCount (slotCount template.fragments) values.length
  let compiled ← compile settings template
  bind compiled values

/-- A template with its values, as a value. -/
def html (settings : Settings) (template : Template) (values : List Value) : Work Value := do
  return .markup (← markup settings template values)

/-- The elements of a template with its values. -/
def createElement (settings : Settings) (template : Template) (values : List Value)
    : Work Value := do
  checkCount (slotCount template.fragments) values.length
  let found ← entry settings template
  let serial ← freshSerial
  return ElementGraph.build found.tree { serial, components := found.components, values }

/-- Binds values to fragments that are read and compiled without the cache. -/
def markupOfFragments (settings : Settings) (fragments : List String) (values : List Value)
    : Work Markup := do
  checkCount (slotCount fragments) values.length
  let tree ← parseFragments settings fragments
  match Compiled.ofTree tree (settings.registry.componentsOf tree) with
  | .ok compiled => bind compiled values
  | .error error => throw error

end Work

end TaggedMarkup
