import TaggedMarkup.Program.Compile
import TaggedMarkup.Registry
import TaggedMarkup.Template
import TaggedMarkup.Tree.Builder

/-! The cache keeps what has been read and compiled of templates. A template is tied to the
component names that its tree depends on, and giving such a name another meaning drops
exactly the templates tied to it.
-/

namespace TaggedMarkup

/-- What a cache has done so far. -/
structure CacheStats where
  hits : Nat := 0
  parses : Nat := 0
  compiles : Nat := 0
  invalidations : Nat := 0
deriving DecidableEq, Repr

structure CacheEntry where
  /-- How many templates had been read when this one was. -/
  serial : Nat := 0
  tree : Tree
  components : List (Nat × Component)
  compiled : Option Compiled := none

/-- The components of the component nodes of a tree, by number. -/
def Registry.componentsOf (registry : Registry) (tree : Tree) : List (Nat × Component) :=
  tree.branches.filterMap fun branch =>
    match branch.node.tag with
    | .component name =>
        (registry.find? name).map fun component => (branch.node.id, component)
    | _ => none

/-- The entry of a tree that has not been compiled. -/
def CacheEntry.ofTree (registry : Registry) (tree : Tree) : CacheEntry :=
  { tree, components := registry.componentsOf tree }

/-- Templates by number, the numbers tied to each name, and what has been counted. -/
structure Cache where
  entries : List (Nat × CacheEntry) := []
  ties : Fields (List Nat) := []
  stats : CacheStats := {}

namespace Cache

def find? (cache : Cache) (id : Nat) : Option CacheEntry :=
  cache.entries.lookup id

def contains (cache : Cache) (id : Nat) : Bool :=
  (cache.find? id).isSome

def size (cache : Cache) : Nat :=
  cache.entries.length

def countHit (cache : Cache) : Cache :=
  { cache with stats := { cache.stats with hits := cache.stats.hits + 1 } }

def countCompile (cache : Cache) : Cache :=
  { cache with stats := { cache.stats with compiles := cache.stats.compiles + 1 } }

/-- The entry of a template, whose use is counted. -/
def lookup (cache : Cache) (id : Nat) : Option CacheEntry × Cache :=
  match cache.find? id with
  | some entry => (some entry, cache.countHit)
  | none => (none, cache)

def without (id : Nat) (ids : List Nat) : List Nat :=
  ids.filter fun other => other != id

/-- The entries without the one of a template. -/
def entriesWithout (id : Nat) (entries : List (Nat × CacheEntry)) : List (Nat × CacheEntry) :=
  entries.filter fun entry => entry.1 != id

def tie (id : Nat) (ties : Fields (List Nat)) (name : String) : Fields (List Nat) :=
  let ids := (Fields.get? ties name).getD []
  Fields.insert ties name (if ids.contains id then ids else ids ++ [id])

/-- Removes the tie of a template to a name. -/
def untie (id : Nat) (ties : Fields (List Nat)) (name : String) : Fields (List Nat) :=
  match Fields.get? ties name with
  | some ids => Fields.insert ties name (without id ids)
  | none => ties

/-- Adds a template that has been read. -/
def insert (cache : Cache) (id : Nat) (entry : CacheEntry) : CacheEntry × Cache :=
  let entry := { entry with serial := cache.stats.parses }
  (entry,
    {
      entries := entriesWithout id cache.entries ++ [(id, entry)]
      ties := entry.tree.ties.foldl (tie id) cache.ties
      stats := { cache.stats with parses := cache.stats.parses + 1 }
    })

def remove (cache : Cache) (id : Nat) : Option CacheEntry × Cache :=
  match cache.find? id with
  | none => (none, cache)
  | some entry =>
      (some entry,
        { cache with
          entries := entriesWithout id cache.entries
          ties := entry.tree.ties.foldl (untie id) cache.ties })

/-- Keeps the compiled form of a template that is in the cache. -/
def setCompiled (cache : Cache) (id : Nat) (compiled : Compiled) : Cache :=
  { cache with
    entries := cache.entries.map fun (other, entry) =>
      (other, if other = id then { entry with compiled := some compiled } else entry) }

/-- Removes the templates in a list and counts those that were there. -/
def removeAll (cache : Cache) : List Nat → Nat × Cache
  | [] => (0, cache)
  | id :: rest =>
      match cache.remove id with
      | (some _, smaller) =>
          let (count, last) := removeAll smaller rest
          (count + 1, last)
      | (none, same) => removeAll same rest

/-- Drops every template that is tied to a name, and says how many there were. -/
def invalidate (cache : Cache) (name : String) : Nat × Cache :=
  match Fields.get? cache.ties name with
  | none => (0, cache)
  | some ids =>
      let (count, smaller) :=
        removeAll { cache with ties := Fields.erase cache.ties name } ids
      (count,
        { smaller with
          stats :=
            { smaller.stats with invalidations := smaller.stats.invalidations + count } })

/-- Drops every template and keeps the counts. -/
def clear (cache : Cache) : Cache :=
  { stats := cache.stats }

end Cache

end TaggedMarkup
