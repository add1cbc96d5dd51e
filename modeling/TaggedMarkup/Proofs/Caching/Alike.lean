import TaggedMarkup.Proofs.Caching.Work

/-! Two stores may differ in what has been compiled, and in templates that only one of them has
read, as long as reading them again gives the same. Nobody who uses templates can tell such
stores apart.
-/

namespace TaggedMarkup

open Stateful

/-- What two stores have of a template. Where only the first has something, it is what reading
the template gives now.
-/
inductive Store.AlikeAt (settings : Settings) (known : Template → Prop) (id : Nat)
    : Option CacheEntry → Option CacheEntry → Prop
  | both {entry other : CacheEntry} (tree : other.tree = entry.tree)
    (components : other.components = entry.components) (compiles : entry.Compiles)
    (compiles' : other.Compiles)
    : Store.AlikeAt settings known id (some entry) (some other)
  | neither : Store.AlikeAt settings known id none none
  | first {entry : CacheEntry} (compiles : entry.Compiles)
    (fresh
      : ∀ template,
          known template → template.id = id → entry.Fresh settings template.fragments)
    : Store.AlikeAt settings known id (some entry) none

/-- Two stores have alike entries and give the same serial numbers. -/
structure Store.Alike (settings : Settings) (known : Template → Prop) (store other : Store)
    : Prop where
  serial : other.nextSerial = store.nextSerial
  entries
    : ∀ id,
        Store.AlikeAt settings known id (store.cache.find? id) (other.cache.find? id)

namespace Store.Alike

variable {settings : Settings} {known : Template → Prop} {store other : Store}
  {template : Template}

/-- Stores whose entries for one template are changed stay alike when the changed ones are. -/
theorem change (alike : Store.Alike settings known store other) {cache cache' : Cache}
    (id : Nat)
    (apart : ∀ another, another ≠ id → cache.find? another = store.cache.find? another)
    (apart' : ∀ another, another ≠ id → cache'.find? another = other.cache.find? another)
    (here : Store.AlikeAt settings known id (cache.find? id) (cache'.find? id))
    : Store.Alike settings known (Work.withCache store cache) (Work.withCache other cache') := by
  refine ⟨alike.serial, ?_⟩
  intro another
  by_cases same : another = id
  · exact same ▸ here
  · simpa only [apart another same, apart' another same] using alike.entries another

theorem freshSerial (alike : Store.Alike settings known store other)
    : Work.Alike (Store.Alike settings known) (fun _ => True) Work.freshSerial
        Work.freshSerial store other := by
  refine ⟨.ok store.nextSerial, { store with nextSerial := store.nextSerial + 1 },
    { other with nextSerial := other.nextSerial + 1 }, rfl, ?_, ⟨?_, alike.entries⟩, by simp⟩
  · exact congrArg (fun number => (Except.ok number, _)) alike.serial
  · exact congrArg (· + 1) alike.serial

/-- What asking two stores for one entry comes to: the same failure, or entries of the same
tree and the same components.
-/
inductive Asked (settings : Settings) (known : Template → Prop) (template : Template)
    : Except Error CacheEntry × Store → Except Error CacheEntry × Store → Prop
  | failed {error reached reached'} (kept : Store.Alike settings known reached reached')
    : Asked settings known template (.error error, reached) (.error error, reached')
  | found {entry entry' reached reached'} (kept : Store.Alike settings known reached reached')
    (cached : reached.cache.find? template.id = some entry)
    (cached' : reached'.cache.find? template.id = some entry')
    (tree : entry'.tree = entry.tree) (components : entry'.components = entry.components)
    (compiles : entry.Compiles) (compiles' : entry'.Compiles)
    : Asked settings known template (.ok entry, reached) (.ok entry', reached')

/-- Alike stores are asked for an entry with the same outcome. -/
theorem entry (alike : Store.Alike settings known store other) (isKnown : known template)
    : Asked settings known template (Work.entry settings template store)
        (Work.entry settings template other) := by
  have left := @Work.entry_found settings template store
  have right := @Work.entry_found settings template other
  rw [Work.entry_apply] at left right ⊢
  rw [Work.entry_apply]
  have here := alike.entries template.id
  cases cached : store.cache.find? template.id with
  | some entry =>
      cases cached' : other.cache.find? template.id with
      | some entry' =>
          simp only [cached, cached'] at here left right ⊢
          cases here with
          | both tree components compiles compiles' =>
              exact .found ⟨alike.serial, alike.entries⟩ (left rfl) (right rfl) tree components
                compiles compiles'
      | none =>
          simp only [cached, cached'] at here left right ⊢
          cases here with
          | first compiles fresh =>
              obtain ⟨parsed, components⟩ := fresh template isKnown rfl
              simp only [parsed] at right ⊢
              have added :=
                CacheEntry.compiles_ofTree settings.registry entry.tree other.cache.stats.parses
              refine .found ?_ (left rfl) (right rfl) rfl components.symm compiles added
              refine alike.change template.id (fun _ _ => rfl) (fun another differs => ?_) ?_
              · rw [Cache.find?_insert, if_neg differs]
              · rw [left rfl, right rfl]
                exact .both rfl components.symm compiles added
  | none =>
      cases cached' : other.cache.find? template.id with
      | some entry' =>
          simp only [cached, cached'] at here
          cases here
      | none =>
          simp only [cached, cached'] at left right ⊢
          cases parsed : Tree.parse settings.registry.resolver settings.options.read
              template.fragments with
          | error error => exact .failed alike
          | ok tree =>
              simp only [parsed] at left right ⊢
              have added := CacheEntry.compiles_ofTree settings.registry tree
              refine .found ?_ (left rfl) (right rfl) rfl rfl (added _) (added _)
              apply alike.change template.id
              · intro another differs
                rw [Cache.find?_insert, if_neg differs]
              · intro another differs
                rw [Cache.find?_insert, if_neg differs]
              · rw [left rfl, right rfl]
                exact .both rfl rfl (added _) (added _)

/-- What one store makes of an entry that has been asked for: the result of compiling its tree,
with the entry kept if there is one and dropped otherwise.
-/
theorem compile_reached {reached : Store} {entry : CacheEntry}
    (asked : Work.entry settings template store = (.ok entry, reached))
    (compiles : entry.Compiles)
    : ∃ cache,
        Work.compile settings template store
          = (Compiled.ofTree entry.tree entry.components, Work.withCache reached cache)
        ∧ (∀ another, another ≠ template.id → cache.find? another = reached.cache.find? another)
        ∧ match Compiled.ofTree entry.tree entry.components with
          | .ok _ =>
              ∃ kept : CacheEntry,
                cache.find? template.id = some kept
                ∧ kept.tree = entry.tree
                ∧ kept.components = entry.components
                ∧ kept.Compiles
          | .error _ => cache.find? template.id = none := by
  have cached := Work.entry_found asked
  rw [Work.compile_apply, asked]
  cases form : entry.compiled with
  | some compiled =>
      refine ⟨reached.cache, ?_, fun _ _ => rfl, ?_⟩
      · simp only [form, compiles compiled form]
      · simp only [compiles compiled form]
        exact ⟨entry, cached, rfl, rfl, compiles⟩
  | none =>
      simp only [form]
      cases made : Compiled.ofTree entry.tree entry.components with
      | ok compiled =>
          refine ⟨_, rfl, ?_, ?_⟩
          · intro another differs
            rw [Cache.find?_setCompiled]
            simp only [if_neg differs, Option.map_id']
            rfl
          · refine ⟨{ entry with compiled := some compiled }, ?_, rfl, rfl, ?_⟩
            · rw [Cache.find?_setCompiled]
              simp only [if_true]
              exact congrArg (Option.map _) cached
            · intro other same
              exact Option.some.inj same ▸ made
      | error error =>
          refine ⟨_, rfl, ?_, ?_⟩
          · intro another differs
            rw [Cache.find?_remove, if_neg differs]
          · exact (Cache.find?_remove ..).trans (if_pos rfl)

/-- Alike stores compile a template with the same outcome. -/
theorem compile (alike : Store.Alike settings known store other) (isKnown : known template)
    : Work.Alike (Store.Alike settings known) (fun _ => True) (Work.compile settings template)
        (Work.compile settings template) store other := by
  have asked := alike.entry isKnown
  cases reading : Work.entry settings template store with
  | mk result reached =>
      cases reading' : Work.entry settings template other with
      | mk result' reached' =>
          rw [reading, reading'] at asked
          cases asked with
          | @failed error _ _ kept =>
              refine ⟨.error error, reached, reached', ?_, ?_, kept, by simp⟩
              · simp only [Work.compile_apply, reading]
              · simp only [Work.compile_apply, reading']
          | found kept _ _ tree components compiles compiles' =>
              obtain ⟨cache, left, apart, here⟩ := compile_reached reading compiles
              obtain ⟨cache', right, apart', here'⟩ := compile_reached reading' compiles'
              rw [tree, components] at right here'
              refine ⟨_, _, _, left, right, kept.change template.id apart apart' ?_, by simp⟩
              split at here
              next made =>
                  rw [made] at here'
                  obtain ⟨entry, found, sameTree, sameComponents, kept⟩ := here
                  obtain ⟨entry', found', sameTree', sameComponents', kept'⟩ := here'
                  rw [found, found']
                  exact .both (sameTree'.trans sameTree.symm)
                    (sameComponents'.trans sameComponents.symm) kept kept'
              next made =>
                  rw [made] at here'
                  rw [here, here']
                  exact .neither

/-- Alike stores check a number of values with the same outcome. -/
theorem checkCount (alike : Store.Alike settings known store other) (expected received : Nat)
    : Work.Alike (Store.Alike settings known) (fun _ => True)
        (Work.checkCount expected received) (Work.checkCount expected received) store other :=
  ⟨_, store, other, Work.checkCount_apply .., Work.checkCount_apply .., alike, by simp⟩

/-- Alike stores bind values under the same serial number. -/
theorem bind (alike : Store.Alike settings known store other) (form : Compiled)
    (values : List Value)
    : Work.Alike (Store.Alike settings known) (fun _ => True) (Work.bind form values)
        (Work.bind form values) store other :=
  (alike.freshSerial).bind fun _ reached reached' _ kept =>
    ⟨_, reached, reached', rfl, rfl, kept, by simp⟩

/-- Alike stores bind values to a template with the same outcome. -/
theorem markup (alike : Store.Alike settings known store other) (isKnown : known template)
    (values : List Value)
    : Work.Alike (Store.Alike settings known) (fun _ => True)
        (Work.markup settings template values) (Work.markup settings template values) store
        other :=
  (alike.checkCount _ _).bind fun _ _ _ _ kept =>
    (kept.compile isKnown).bind fun form _ _ _ kept => kept.bind form values

theorem create (alike : Store.Alike settings known store other) (isKnown : known template)
    (values : List Value)
    : Work.Alike (Store.Alike settings known) (fun _ => True)
        (Work.createElement settings template values)
        (Work.createElement settings template values) store other := by
  apply (alike.checkCount _ _).bind
  intro _ store other _ alike
  have asked := alike.entry isKnown
  cases reading : Work.entry settings template store with
  | mk result reached =>
      cases reading' : Work.entry settings template other with
      | mk result' reached' =>
          rw [reading, reading'] at asked
          cases asked with
          | @failed error _ _ kept =>
              refine ⟨.error error, reached, reached', ?_, ?_, kept, by simp⟩
              · simp only [bind_apply, reading]
              · simp only [bind_apply, reading']
          | @found entry entry' reached reached' kept _ _ tree components =>
              have rest
                  : Work.Alike (Store.Alike settings known) (fun _ => True)
                      (do
                        let serial ← Work.freshSerial
                        return ElementGraph.build entry.tree
                          { serial, components := entry.components, values })
                      (do
                        let serial ← Work.freshSerial
                        return ElementGraph.build entry'.tree
                          { serial, components := entry'.components, values })
                      reached reached' := by
                rw [tree, components]
                exact kept.freshSerial.bind fun serial next next' _ kept =>
                  ⟨.ok _, next, next', rfl, rfl, kept, by simp⟩
              obtain ⟨answer, next, next', left, right, kept, fine⟩ := rest
              refine ⟨answer, next, next', ?_, ?_, kept, fine⟩
              · rw [bind_apply, reading]
                exact left
              · rw [bind_apply, reading']
                exact right

theorem parse (alike : Store.Alike settings known store other) (isKnown : known template)
    : Work.Alike (Store.Alike settings known) (fun _ => True) (Work.parse settings template)
        (Work.parse settings template) store other := by
  have asked := alike.entry isKnown
  cases reading : Work.entry settings template store with
  | mk result reached =>
      cases reading' : Work.entry settings template other with
      | mk result' reached' =>
          rw [reading, reading'] at asked
          simp only [Work.Alike, Work.parse, bind_apply, reading, reading']
          cases asked with
          | @failed error _ _ kept => exact ⟨.error error, _, _, rfl, rfl, kept, by simp⟩
          | found kept _ _ tree =>
              exact ⟨_, _, _, rfl, by simp only [pure_apply, tree], kept, by simp⟩

/-- Alike stores bind values to fragments with the same outcome. -/
theorem fragments (alike : Store.Alike settings known store other) (fragments : List String)
    (values : List Value)
    : Work.Alike (Store.Alike settings known) (fun _ => True)
        (Work.markupOfFragments settings fragments values)
        (Work.markupOfFragments settings fragments values) store other := by
  simp only [Work.Alike, Work.markupOfFragments_apply]
  split
  · cases Work.formOf settings fragments with
    | error error => exact ⟨_, _, _, rfl, rfl, alike, by simp⟩
    | ok form => exact alike.bind form values
  · exact ⟨_, _, _, rfl, rfl, alike, by simp⟩

/-- Alike stores answer the requests of code alike and stay alike. -/
theorem answering (settings : Settings) (known : Template → Prop)
    : Store.Answering settings (fun _ => True) known (Store.Alike settings known) where
  serial alike := alike.freshSerial
  html isKnown _ alike :=
    (alike.markup isKnown _).bind fun _ reached reached' _ kept =>
      ⟨_, reached, reached', rfl, rfl, kept, by simp⟩
  create isKnown _ alike := alike.create isKnown _
  parse isKnown alike := alike.parse isKnown
  compile isKnown alike := alike.compile isKnown
  fragments alike := alike.fragments _ _

end Store.Alike

end TaggedMarkup
