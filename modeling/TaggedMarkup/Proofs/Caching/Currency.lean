import TaggedMarkup.Proofs.Reading.Resolution
import TaggedMarkup.Proofs.Session

/-! What the cache keeps of a template stays current: it was read with a registry that gives
the names its tree is tied to the meaning that they have now. Registering a component keeps
this, because it drops every template that is tied to its name.
-/

namespace TaggedMarkup

-----------------------------------------------------------------------------------------
-- Registries
-----------------------------------------------------------------------------------------

theorem Registry.capital_empty : Registry.Capital {} := by
  intro name component found
  simp [Registry.find?, Fields.get?] at found

/-- What registering a component does to the meaning of names. -/
theorem Registry.find?_register {registry registered : Registry} {name : String}
    {component : Component} {changed : Bool}
    (registers : registry.register name component = .ok (changed, registered))
    : Html.startsCapital name = true
      ∧ changed = (registry.find? name != some component)
      ∧ ∀ other,
          registered.find? other
          = if name = other then some component else registry.find? other := by
  simp only [register] at registers
  split at registers
  next => cases registers
  next accepted =>
      obtain ⟨rfl, rfl⟩ := Prod.mk.inj (Except.ok.inj registers)
      refine ⟨?_, rfl, fun other => Fields.get?_insert ..⟩
      have pascal : Html.isPascalCase name = true := by
        cases isPascal : Html.isPascalCase name with
        | true => rfl
        | false => simp [refusal?, isPascal] at accepted
      simp only [Html.isPascalCase, Html.startsCapital] at pascal ⊢
      split at pascal
      next chars => simpa [chars] using (Bool.and_eq_true_iff.mp pascal).1
      next => cases pascal

/-- Registering a component keeps names with an initial capital. -/
theorem Registry.Capital.register {registry registered : Registry} (capital : registry.Capital)
    {name : String} {component : Component} {changed : Bool}
    (registers : registry.register name component = .ok (changed, registered))
    : registered.Capital := by
  obtain ⟨isCapital, -, meaning⟩ := find?_register registers
  intro other found isFound
  rw [meaning] at isFound
  split at isFound
  next same => exact same ▸ isCapital
  next => exact capital other found isFound

theorem Registry.Capital.agree {registry : Registry} (capital : registry.Capital)
    (ties : List String)
    : registry.Agree registry ties :=
  ⟨capital, capital, fun _ _ => rfl⟩

/-- Names that do not get another meaning keep the one that they have. -/
theorem Registry.Agree.register {old now registered : Registry} {ties : List String}
    (agree : old.Agree now ties) {name : String} {component : Component} {changed : Bool}
    (registers : now.register name component = .ok (changed, registered))
    (untouched : changed = true → name ∉ ties)
    : old.Agree registered ties := by
  obtain ⟨-, isChanged, meaning⟩ := find?_register registers
  refine ⟨agree.oldCapital, agree.nowCapital.register registers, ?_⟩
  intro other tied
  rw [meaning]
  split
  next same =>
      subst same
      cases changed with
      | true => exact absurd tied (untouched rfl)
      | false =>
          have unchanged : now.find? name = some component := by simpa using isChanged
          exact unchanged.symm.trans (agree.same name tied)
  next => exact agree.same other tied

/-- The components of a tree are the same in two registries that agree on its ties. -/
theorem Registry.Agree.componentsOf {old now : Registry} {tree : Tree}
    (agree : old.Agree now tree.ties) {options : ReadOptions} {tokens : List Token}
    (read : Tree.TreeRead old.resolver options tokens tree)
    : now.componentsOf tree = old.componentsOf tree := by
  apply List.filterMap_congr
  intro branch member
  have named := (read.roots.branches branch member).opened.named
  split
  next name isComponent =>
      obtain ⟨isName, -⟩ := Tree.component_found named isComponent
      rw [isName, Tree.find?_same agree named.tied]
  next => rfl

-----------------------------------------------------------------------------------------
-- Entries
-----------------------------------------------------------------------------------------

/-- An entry was read from the fragments with a registry that gives the names its tree is tied
to the same meaning.
-/
def CacheEntry.Current (entry : CacheEntry) (settings : Settings) (fragments : List String)
    : Prop :=
  ∃ old : Registry,
    old.Agree settings.registry entry.tree.ties
    ∧ Tree.parse old.resolver settings.options.read fragments = .ok entry.tree
    ∧ entry.components = old.componentsOf entry.tree

/-- A current entry is fresh exactly when the closing tags of its tree match. -/
theorem CacheEntry.Current.fresh_iff {entry : CacheEntry} {settings : Settings}
    {fragments : List String} (current : entry.Current settings fragments)
    : entry.Fresh settings fragments ↔ entry.tree.Matches settings.registry fragments := by
  obtain ⟨old, agree, parsed, components⟩ := current
  constructor
  · intro fresh
    exact Tree.matches_of_parse fresh.tree
  · intro matching
    refine ⟨(Tree.parse_again_iff agree parsed).mpr matching, ?_⟩
    rw [components, agree.componentsOf (Tree.parse_read parsed)]

/-- The templates of an engine are current, compiled as they are read, and found by the names
that their trees are tied to. `library` gives the fragments of each template by its number.
-/
structure Store.Current (library : Nat → List String) (settings : Settings) (store : Store)
    : Prop where
  capital : settings.registry.Capital
  indexed : store.cache.Indexed
  compiles : ∀ id entry, store.cache.find? id = some entry → entry.Compiles
  current
    : ∀ id entry,
        store.cache.find? id = some entry → entry.Current settings (library id)

/-- A template is the one that a library has under its number. -/
def Template.In (library : Nat → List String) (template : Template) : Prop :=
  template.fragments = library template.id

namespace Store.Current

variable {library : Nat → List String} {settings : Settings} {store : Store}

/-- The use of templates keeps what is in the store current. -/
theorem lasting (library : Nat → List String) (settings : Settings)
    : Store.Lasting settings (Template.In library) (Store.Current library settings) where
  serial now := ⟨now.capital, now.indexed, now.compiles, now.current⟩
  hit now := ⟨now.capital, now.indexed, now.compiles, now.current⟩
  read {store template tree} now known absent parsed := by
    refine ⟨now.capital, now.indexed.insert _ _, fun id entry found => ?_,
      fun id entry found => ?_⟩ <;>
      rw [Cache.find?_insert] at found <;>
      split at found
    · obtain rfl := Option.some.inj found
      exact CacheEntry.compiles_ofTree settings.registry tree _
    · exact now.compiles id entry found
    next same =>
        obtain rfl := Option.some.inj found
        refine ⟨settings.registry, now.capital.agree _, ?_, rfl⟩
        rw [same, ← known]
        exact parsed
    next => exact now.current id entry found
  compiled {store id entry compiled} now found made := by
    refine ⟨now.capital, now.indexed.setCompiled _ _, fun other another isFound => ?_,
      fun other another isFound => ?_⟩ <;>
      rw [Cache.find?_setCompiled] at isFound <;>
      obtain ⟨before, wasFound, rfl⟩ := Option.map_eq_some_iff.mp isFound
    · split
      next same =>
          intro form isForm
          obtain rfl := Option.some.inj isForm
          obtain rfl := Option.some.inj (found.symm.trans (same ▸ wasFound))
          exact made
      next => exact now.compiles other before wasFound
    · split <;> exact now.current other before wasFound
  dropped {store id} now := by
    refine ⟨now.capital, fun other => (now.indexed other).remove id, fun other entry found => ?_,
      fun other entry found => ?_⟩ <;>
      rw [Cache.find?_remove] at found <;>
      split at found
    · cases found
    · exact now.compiles other entry found
    · cases found
    · exact now.current other entry found

/-- Registering a component keeps what is left in the store current. -/
theorem registered {engine changed : Engine} {name : String} {component : Component}
    (now : Store.Current library engine.settings engine.store)
    (registers : engine.registerOne name component = .ok changed)
    : Store.Current library changed.settings changed.store := by
  simp only [Engine.registerOne] at registers
  split at registers
  next => cases registers
  next isChanged registry registering =>
      obtain rfl := Except.ok.inj registers
      have kept (id : Nat) (entry : CacheEntry)
          (found
            : Cache.find?
                (if isChanged then
                  (engine.store.cache.invalidate name).2
                else
                  engine.store.cache)
                id
              = some entry)
          : engine.store.cache.find? id = some entry
            ∧ (isChanged = true → name ∉ entry.tree.ties) := by
        cases isChanged with
        | true =>
            obtain ⟨wasFound, untouched⟩ := now.indexed.find?_invalidate found
            exact ⟨wasFound, fun _ => untouched⟩
        | false => exact ⟨found, nofun⟩
      refine ⟨now.capital.register registering, ?_, ?_, ?_⟩
      · cases isChanged with
        | true => exact now.indexed.invalidate name
        | false => exact now.indexed
      · intro id entry found
        exact now.compiles id entry (kept id entry found).1
      · intro id entry found
        obtain ⟨wasFound, untouched⟩ := kept id entry found
        obtain ⟨old, agree, parsed, components⟩ := now.current id entry wasFound
        exact ⟨old, agree.register registering untouched, parsed, components⟩

/-- The templates of an engine are current in all states that it can come to. -/
theorem invariant (library : Nat → List String)
    : Engine.Invariant (Template.In library) (Store.Current library) where
  start _ :=
    ⟨Registry.capital_empty, Cache.indexed_clear {}, fun _ _ => nofun, fun _ _ => nofun⟩
  used := lasting library
  cleared now := ⟨now.capital, Cache.indexed_clear _, fun _ _ => nofun, fun _ _ => nofun⟩
  registered := registered

end Store.Current

end TaggedMarkup
