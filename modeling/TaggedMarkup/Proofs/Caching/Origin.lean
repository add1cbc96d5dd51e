import TaggedMarkup.Proofs.Caching.Alike
import TaggedMarkup.Proofs.Genuine

/-! Every entry of the cache was read with the options of the engine, whatever was registered
since. What the cache gives out is therefore genuine, and so is what code is answered.
-/

namespace TaggedMarkup

open Stateful

/-- A compiled form that is asked for is the form of an entry. What lasts in the store holds when
the entry has been found.
-/
theorem Store.Lasting.compile_entry {settings : Settings} {known : Template → Prop}
    {holds : Store → Prop} (lasting : Store.Lasting settings known holds)
    {template : Template} {store reached : Store} {form : Compiled} (isKnown : known template)
    (now : holds store)
    (compiles
      : ∀ {store id entry}, holds store → store.cache.find? id = some entry → entry.Compiles)
    (asked : Work.compile settings template store = (.ok form, reached))
    : ∃ entry middle,
        Work.entry settings template store = (.ok entry, middle)
        ∧ holds middle
        ∧ Compiled.ofTree entry.tree entry.components = .ok form := by
  have kept := lasting.entry isKnown now
  have unfolded := Work.compile_apply settings template store
  cases reading : Work.entry settings template store with
  | mk result middle =>
      rw [reading] at kept unfolded
      cases result with
      | error error => cases (Prod.mk.inj (asked.symm.trans unfolded)).1
      | ok entry =>
          obtain ⟨cache, made, -, -⟩ :=
            Store.Alike.compile_reached reading (compiles kept (Work.entry_found reading))
          exact ⟨entry, middle, rfl, kept, (Prod.mk.inj (made.symm.trans asked)).1⟩

/-- A tree is what reading some fragments gives with some components registered. -/
def Tree.ReadWith (options : ReadOptions) (tree : Tree) : Prop :=
  ∃ resolver fragments, Tree.parse resolver options fragments = .ok tree

/-- The entries of a store were read with options and are compiled as they were read. -/
structure Store.Read (options : ReadOptions) (store : Store) : Prop where
  read : ∀ id entry, store.cache.find? id = some entry → entry.tree.ReadWith options
  compiles : ∀ id entry, store.cache.find? id = some entry → entry.Compiles

namespace Store.Read

variable {known : Template → Prop} {settings : Settings} {store : Store} {template : Template}

theorem fewer {options : ReadOptions} (now : Store.Read options store) {cache : Cache}
    (subset : ∀ id entry, cache.find? id = some entry → store.cache.find? id = some entry)
    : Store.Read options { store with cache } where
  read id entry found := now.read id entry (subset id entry found)
  compiles id entry found := now.compiles id entry (subset id entry found)

/-- The use of templates keeps where entries come from. -/
theorem lasting (known : Template → Prop) (settings : Settings)
    : Store.Lasting settings known (Store.Read settings.options.read) where
  serial now := ⟨now.read, now.compiles⟩
  hit now := ⟨now.read, now.compiles⟩
  read {store template tree} now _ _ parsed := by
    constructor <;> intro id entry found <;> rw [Cache.find?_insert] at found <;> split at found
    · obtain rfl := Option.some.inj found
      exact ⟨_, _, parsed⟩
    · exact now.read id entry found
    · obtain rfl := Option.some.inj found
      exact CacheEntry.compiles_ofTree settings.registry tree _
    · exact now.compiles id entry found
  compiled {store id entry form} now found made := by
    constructor <;> intro other another isFound <;> rw [Cache.find?_setCompiled] at isFound <;>
      obtain ⟨before, wasFound, rfl⟩ := Option.map_eq_some_iff.mp isFound
    · split <;> exact now.read other before wasFound
    · split
      next same =>
          intro other isForm
          obtain rfl := Option.some.inj isForm
          obtain rfl := Option.some.inj (found.symm.trans (same ▸ wasFound))
          exact made
      next => exact now.compiles other before wasFound
  dropped {store id} now := by
    apply now.fewer
    intro other entry found
    rw [Cache.find?_remove] at found
    split at found
    · cases found
    · exact found

/-- What dropping the templates of a name leaves was there before. -/
theorem find?_invalidate {cache : Cache} {name : String} {id : Nat} {entry : CacheEntry}
    (found : (cache.invalidate name).2.find? id = some entry)
    : cache.find? id = some entry := by
  simp only [Cache.invalidate] at found
  split at found
  next => exact found
  next ids _ => exact (Option.ite_none_left_eq_some.mp (Cache.find?_removeAll .. ▸ found)).2

/-- The entries have been read with the options in all states that an engine can come to. -/
theorem invariant (known : Template → Prop)
    : Engine.Invariant known fun settings => Store.Read settings.options.read where
  start _ := ⟨fun _ _ => nofun, fun _ _ => nofun⟩
  used := lasting known
  cleared _ := ⟨fun _ _ => nofun, fun _ _ => nofun⟩
  registered {engine changed name component} now registers := by
    simp only [Engine.registerOne] at registers
    split at registers
    next => cases registers
    next isChanged registry registering =>
        obtain rfl := Except.ok.inj registers
        apply now.fewer
        intro id entry found
        cases isChanged with
        | true => exact find?_invalidate found
        | false => exact found

/-- Renders inside one another leave the entries read. -/
theorem render {settings : Settings} {store : Store} (now : Store.Read settings.options.read store)
    (host : Host) (plugins : Plugins) (levels : Nat) (request : RenderRequest)
    : Store.Read settings.options.read (host.render settings plugins levels request store).2 := by
  have answering := (lasting (fun _ => True) settings).answering_true
  obtain ⟨result, reached, -, left, -, ⟨-, later⟩, -⟩ :
      Work.Alike _ _ (host.render settings plugins levels request) _ store store :=
    answering.renders host.keeps_true plugins levels request.within_true ⟨rfl, now⟩
  rw [left]
  exact later

-----------------------------------------------------------------------------------------
-- What the cache gives out
-----------------------------------------------------------------------------------------

/-- An entry that is asked for was read with the options. -/
theorem entry {reached : Store} {found : CacheEntry}
    (now : Store.Read settings.options.read store)
    (asked : Work.entry settings template store = (.ok found, reached))
    : found.tree.ReadWith settings.options.read ∧ found.Compiles := by
  have kept : Store.Read settings.options.read (Work.entry settings template store).2 :=
    (lasting (fun _ => True) settings).entry trivial now
  rw [asked] at kept
  have cached := Work.entry_found asked
  exact ⟨kept.read _ _ cached, kept.compiles _ _ cached⟩

/-- A compiled form that is asked for is the form of the entry. -/
theorem compile {reached : Store} {form : Compiled}
    (now : Store.Read settings.options.read store)
    (asked : Work.compile settings template store = (.ok form, reached))
    : ∃ entry middle,
        Work.entry settings template store = (.ok entry, middle)
        ∧ entry.tree.ReadWith settings.options.read
        ∧ Compiled.ofTree entry.tree entry.components = .ok form := by
  obtain ⟨entry, middle, reading, kept, made⟩ :=
    (lasting (fun _ => True) settings).compile_entry trivial now
      (fun now found => now.compiles _ _ found) asked
  exact ⟨entry, middle, reading, kept.read _ _ (Work.entry_found reading), made⟩

/-- A compiled form that is asked for is genuine. -/
theorem compile_genuine {reached : Store} {form : Compiled}
    (now : Store.Read settings.options.read store)
    (asked : Work.compile settings template store = (.ok form, reached))
    : form.Genuine := by
  obtain ⟨entry, -, -, ⟨resolver, fragments, parsed⟩, made⟩ := now.compile asked
  obtain ⟨output, -, rfl⟩ := Program.ofTree_eq made
  exact ⟨⟨resolver, _, fragments, parsed⟩, made⟩

section

variable {good : Value → Prop} {values : List Value}

theorem markup_good {reached : Store} {markup : Markup}
    (binds : Value.Binds settings.options.read good)
    (now : Store.Read settings.options.read store) (holds : ∀ value ∈ values, good value)
    (asked : Work.markup settings template values store = (.ok markup, reached))
    : good (.markup markup) := by
  obtain ⟨-, form, stored, compiled, rfl, -⟩ := Work.markup_ok asked
  obtain ⟨entry, -, -, read, made⟩ := now.compile compiled
  obtain ⟨output, -, rfl⟩ := Program.ofTree_eq made
  exact binds _ _ _ read (now.compile_genuine compiled) holds

/-- The answer to a request for a bound template is good. -/
theorem html_good {reached : Store} {value : Value}
    (binds : Value.Binds settings.options.read good)
    (now : Store.Read settings.options.read store) (holds : ∀ value ∈ values, good value)
    (asked : Work.html settings template values store = (.ok value, reached))
    : good value := by
  obtain ⟨markup, bound, rfl⟩ := Work.html_ok asked
  exact now.markup_good binds holds bound

/-- The answer to a request for elements is good. -/
theorem create_good {reached : Store} {value : Value} (formed : Value.Formed good)
    (holds : ∀ value ∈ values, good value)
    (asked : Work.createElement settings template values store = (.ok value, reached))
    : good value := by
  rw [Work.createElement_apply] at asked
  split at asked
  · split at asked
    next =>
        obtain rfl := Except.ok.inj (Prod.mk.inj asked).1
        exact formed.build holds _
    next => cases (Prod.mk.inj asked).1
  · cases (Prod.mk.inj asked).1

/-- A store answers the requests of code like itself and with good values. -/
theorem answering (formed : Value.Formed good) (binds : Value.Binds settings.options.read good)
    (known : Template → Prop)
    : Store.Answering settings good known
        (fun store other => store = other ∧ Store.Read settings.options.read store) :=
  (lasting known settings).answering (fun _ given now asked => now.html_good binds given asked)
    (fun _ given _ asked => create_good formed given asked)

end

end Store.Read

/-- The renders that code starts leave the entries of a store read. -/
def RenderSettings.LeavesRead (cx : RenderSettings) : Prop :=
  ∀ request store,
    Store.Read cx.settings.options.read store
    → Store.Read cx.settings.options.read (cx.inner request store).2

theorem RenderSettings.LeavesRead.renders {cx : RenderSettings} (leaves : cx.LeavesRead)
    (good : Value → Prop) (known : Template → Prop)
    : Store.Renders cx.inner good known
        (fun store other => store = other ∧ Store.Read cx.settings.options.read store) :=
  fun request _ _ _ ⟨same, now⟩ =>
    same ▸ ⟨_, _, _, rfl, rfl, ⟨rfl, leaves request _ now⟩, by simp⟩

/-- The renders of an engine leave its templates read. -/
theorem Engine.leavesRead (engine : Engine) (host : Host) (static : Bool)
    : (engine.rendering host static).LeavesRead :=
  fun request _ now => now.render host engine.plugins host.levels request

end TaggedMarkup
