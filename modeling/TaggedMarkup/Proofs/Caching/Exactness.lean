import TaggedMarkup.Proofs.Session

/-! The index of ties is exact: a template is tied to a name exactly when it is in the cache and
its tree depends on the name. So giving a name another meaning drops the templates that depend on
it and no others, and a template that cannot be read or compiled leaves nothing behind.
-/

namespace TaggedMarkup

namespace Cache

-----------------------------------------------------------------------------------------
-- Entries by number
-----------------------------------------------------------------------------------------

/-- No template has two entries. -/
def Distinct (cache : Cache) : Prop :=
  (cache.entries.map Prod.fst).Nodup

/-- An entry is in the cache exactly when it is found by its number. -/
theorem Distinct.mem_iff {cache : Cache} (distinct : cache.Distinct) {id : Nat}
    {entry : CacheEntry}
    : (id, entry) ∈ cache.entries ↔ cache.find? id = some entry := by
  obtain ⟨entries, ties, stats⟩ := cache
  simp only [Distinct, find?] at distinct ⊢
  induction entries with
  | nil => simp
  | cons first rest ih =>
      obtain ⟨other, found⟩ := first
      obtain ⟨absent, others⟩ := List.nodup_cons.mp distinct
      rw [List.mem_cons, List.lookup_cons, ih others]
      by_cases same : id = other
      · subst same
        have missing : rest.lookup id ≠ some entry := by
          intro isFound
          exact absent (List.mem_map.mpr ⟨_, (ih others).mpr isFound, rfl⟩)
        simp [missing, eq_comm]
      · simp [same, beq_false_of_ne same]

theorem Distinct.filter {cache smaller : Cache} (distinct : cache.Distinct)
    {keep : Nat × CacheEntry → Bool} (fewer : smaller.entries = cache.entries.filter keep)
    : smaller.Distinct := by
  rw [Distinct, fewer]
  exact distinct.sublist (List.filter_sublist.map Prod.fst)

theorem Distinct.insert {cache : Cache} (distinct : cache.Distinct) (id : Nat)
    (entry : CacheEntry)
    : (cache.insert id entry).2.Distinct := by
  have others : ((entriesWithout id cache.entries).map Prod.fst).Nodup :=
    List.Nodup.sublist (List.filter_sublist.map Prod.fst) distinct
  simp only [Distinct, Cache.insert, List.map_append, List.map_cons, List.map_nil]
  refine List.nodup_append.mpr ⟨others, by simp, ?_⟩
  simp [entriesWithout]

theorem Distinct.setCompiled {cache : Cache} (distinct : cache.Distinct) (id : Nat)
    (compiled : Compiled)
    : (cache.setCompiled id compiled).Distinct := by
  simpa [Distinct, Cache.setCompiled, Function.comp_def] using distinct

/-- Removing a template leaves the entries of all others. -/
theorem entries_remove (cache : Cache) (id : Nat)
    : (cache.remove id).2.entries = entriesWithout id cache.entries := by
  simp only [remove]
  split
  next absent =>
      refine (List.filter_eq_self.mpr fun entry member => ?_).symm
      have differs := List.lookup_eq_none_iff.mp absent entry member
      exact bne_iff_ne.mpr (Ne.symm (by simpa using differs))
  next => rfl

/-- Removing templates leaves the entries of all others, by induction on the list of templates. -/
theorem entries_removeAll (cache : Cache) (ids : List Nat)
    : (cache.removeAll ids).2.entries
      = cache.entries.filter fun entry => !ids.contains entry.1 := by
  induction ids generalizing cache with
  | nil => exact (List.filter_eq_self.mpr (by simp)).symm
  | cons id rest ih =>
      rw [removeAll_cons, ih, entries_remove, entriesWithout, List.filter_filter]
      apply List.filter_congr
      intro entry _
      by_cases same : entry.1 = id <;> simp [same]

theorem stats_remove (cache : Cache) (id : Nat) : (cache.remove id).2.stats = cache.stats := by
  simp only [remove]
  split <;> rfl

theorem stats_removeAll (cache : Cache) (ids : List Nat)
    : (cache.removeAll ids).2.stats = cache.stats := by
  induction ids generalizing cache with
  | nil => rfl
  | cons id rest ih => rw [removeAll_cons, ih, stats_remove]

/-- One entry is lost with a template that is in the cache. -/
theorem Distinct.length_remove {cache : Cache} (distinct : cache.Distinct) {id : Nat}
    {entry : CacheEntry} (found : cache.find? id = some entry)
    : (cache.remove id).2.entries.length + 1 = cache.entries.length := by
  have member : id ∈ cache.entries.map Prod.fst :=
    List.mem_map.mpr ⟨_, distinct.mem_iff.mpr found, rfl⟩
  have one : (cache.entries.map Prod.fst).count id = 1 :=
    (List.Nodup.count distinct).trans (if_pos member)
  rw [List.count, List.countP_map] at one
  have split := List.length_eq_countP_add_countP (fun entry => entry.1 != id) (l := cache.entries)
  rw [List.countP_eq_length_filter] at split
  rw [entries_remove, entriesWithout, split, ← one]
  congr 1
  apply List.countP_congr
  simp

/-- As many templates are counted as there are entries less. -/
theorem Distinct.count_removeAll {cache : Cache} (distinct : cache.Distinct) (ids : List Nat)
    : (cache.removeAll ids).1 + (cache.removeAll ids).2.entries.length = cache.entries.length := by
  induction ids generalizing cache with
  | nil => exact Nat.zero_add _
  | cons id rest ih =>
      have later := ih (distinct.filter (cache.entries_remove id))
      rw [removeAll_cons]
      cases isFound : cache.find? id with
      | none =>
          have removal : cache.remove id = (none, cache) := by simp only [remove, isFound]
          simpa only [removeAll, removal] using later
      | some entry =>
          have removal : cache.remove id = (some entry, (cache.remove id).2) := by
            simp only [remove, isFound]
          have fewer := distinct.length_remove isFound
          have counted
              : (cache.removeAll (id :: rest)).1 = ((cache.remove id).2.removeAll rest).1 + 1 := by
            rw [removeAll, removal]
          omega

-----------------------------------------------------------------------------------------
-- Ties
-----------------------------------------------------------------------------------------

/-- A template is tied to a name exactly when it is in the cache and its tree depends on the
name.
-/
def ExactFor (cache : Cache) (name : String) : Prop :=
  ∀ id,
    id ∈ tiedTo cache.ties name
    ↔ ∃ entry, cache.find? id = some entry ∧ name ∈ entry.tree.ties

namespace ExactFor

variable {cache : Cache} {name : String}

theorem insert (exact : cache.ExactFor name) {id : Nat} (absent : cache.find? id = none)
    (entry : CacheEntry)
    : (cache.insert id entry).2.ExactFor name := by
  intro other
  simp only [find?_insert]
  refine mem_tiedTo_ties.trans ?_
  rw [exact other]
  by_cases same : other = id
  · simp [same, absent]
  · simp [same]

theorem remove (exact : cache.ExactFor name) (id : Nat) : (cache.remove id).2.ExactFor name := by
  intro other
  rw [find?_remove]
  cases isFound : cache.find? id with
  | none =>
      simp only [Cache.remove, isFound, exact other]
      by_cases same : other = id
      · simp [same, isFound]
      · simp [same]
  | some entry =>
      simp only [Cache.remove, isFound]
      refine mem_tiedTo_unties.trans ?_
      rw [exact other]
      by_cases same : other = id
      · simp [same, isFound]
      · simp [same]

theorem removeAll (exact : cache.ExactFor name) (ids : List Nat)
    : (cache.removeAll ids).2.ExactFor name := by
  induction ids generalizing cache with
  | nil => exact exact
  | cons id rest ih =>
      rw [removeAll_cons]
      exact ih (exact.remove id)

theorem setCompiled (exact : cache.ExactFor name) (id : Nat) (compiled : Compiled)
    : (cache.setCompiled id compiled).ExactFor name := by
  intro other
  refine (exact other).trans ?_
  rw [find?_setCompiled]
  cases cache.find? other with
  | none => simp
  | some entry => by_cases same : other = id <;> simp [same]

/-- Forgetting the ties of one name keeps those of another. -/
theorem erase (exact : cache.ExactFor name) {dropped : String} (differs : dropped ≠ name)
    : ExactFor { cache with ties := Fields.erase cache.ties dropped } name := by
  intro id
  refine Iff.trans ?_ (exact id)
  rw [tiedTo, Fields.get?_erase, if_neg differs, tiedTo]

end ExactFor

/-- Removing templates adds no ties, by induction on the list of templates. -/
theorem mem_tiedTo_removeAll {cache : Cache} {ids : List Nat} {id : Nat} {name : String}
    (tied : id ∈ tiedTo (cache.removeAll ids).2.ties name)
    : id ∈ tiedTo cache.ties name := by
  induction ids generalizing cache with
  | nil => exact tied
  | cons first rest ih =>
      have left := ih (removeAll_cons .. ▸ tied)
      simp only [remove] at left
      split at left
      · exact left
      · exact (mem_tiedTo_unties.mp left).1

/-- The entries of the templates that depend on a name. -/
def dependents (cache : Cache) (name : String) : List (Nat × CacheEntry) :=
  cache.entries.filter fun entry => name ∈ entry.2.tree.ties

/-- Every entry depends on a name or stays without it. -/
theorem length_dependents (cache : Cache) (name : String)
    : (cache.dependents name).length
        + (cache.entries.filter fun entry => name ∉ entry.2.tree.ties).length
      = cache.entries.length := by
  have split := List.length_eq_countP_add_countP (l := cache.entries)
    fun entry => decide (name ∈ entry.2.tree.ties)
  simp only [List.countP_eq_length_filter, decide_eq_true_eq] at split
  exact split.symm

/-- The cache without the templates that are tied to a name, and how many they were. The ties to
the name are forgotten first.
-/
def detach (cache : Cache) (name : String) : Nat × Cache :=
  removeAll { cache with ties := Fields.erase cache.ties name } (tiedTo cache.ties name)

/-- What is dropped with a name is counted among all that has been dropped. -/
theorem invalidate_tied {cache : Cache} {name : String} {ids : List Nat}
    (isTied : Fields.get? cache.ties name = some ids)
    : (cache.invalidate name).2
      = { (cache.detach name).2 with
          stats :=
            { cache.stats with
              invalidations := cache.stats.invalidations + (cache.detach name).1 } } := by
  have tied : tiedTo cache.ties name = ids := by rw [tiedTo, isTied]; rfl
  simp only [invalidate, detach, isTied, tied, stats_removeAll]

/-- Every template has one entry at most, its ties are those of the tree in the entry, and a
compiled form is the form of that tree.
-/
structure Exact (cache : Cache) : Prop where
  distinct : cache.Distinct
  ties : ∀ name, cache.ExactFor name
  compiles : ∀ id entry, cache.find? id = some entry → entry.Compiles

namespace Exact

variable {cache : Cache}

theorem clear (cache : Cache) : cache.clear.Exact where
  distinct := List.nodup_nil
  ties name id := by simp [Cache.clear, tiedTo, Fields.get?, find?]
  compiles _ _ := nofun

/-- Whatever only counts keeps the cache exact. -/
theorem same {other : Cache} (exact : cache.Exact) (entries : other.entries = cache.entries)
    (ties : other.ties = cache.ties)
    : other.Exact := by
  obtain ⟨entries', ties', stats'⟩ := other
  obtain rfl := entries
  obtain rfl := ties
  exact ⟨exact.distinct, exact.ties, exact.compiles⟩

theorem remove (exact : cache.Exact) (id : Nat) : (cache.remove id).2.Exact where
  distinct := exact.distinct.filter (cache.entries_remove id)
  ties name := (exact.ties name).remove id
  compiles other entry found := by
    rw [find?_remove] at found
    exact exact.compiles other entry (Option.ite_none_left_eq_some.mp found).2

theorem insert (exact : cache.Exact) {id : Nat} (absent : cache.find? id = none)
    {entry : CacheEntry} (compiles : ∀ serial, CacheEntry.Compiles { entry with serial })
    : (cache.insert id entry).2.Exact where
  distinct := exact.distinct.insert id entry
  ties name := (exact.ties name).insert absent entry
  compiles other another found := by
    rw [find?_insert] at found
    split at found
    · exact Option.some.inj found ▸ compiles _
    · exact exact.compiles other another found

theorem setCompiled (exact : cache.Exact) {id : Nat} {entry : CacheEntry} {compiled : Compiled}
    (found : cache.find? id = some entry)
    (made : Compiled.ofTree entry.tree entry.components = .ok compiled)
    : (cache.setCompiled id compiled).Exact where
  distinct := exact.distinct.setCompiled id compiled
  ties name := (exact.ties name).setCompiled id compiled
  compiles other another isFound := by
    rw [find?_setCompiled] at isFound
    obtain ⟨before, wasFound, rfl⟩ := Option.map_eq_some_iff.mp isFound
    split
    next same =>
        intro form isForm
        obtain rfl := Option.some.inj isForm
        obtain rfl := Option.some.inj (found.symm.trans (same ▸ wasFound))
        exact made
    next => exact exact.compiles other before wasFound

/-- The templates tied to a name are those of the entries that depend on it. -/
theorem contains_tiedTo (exact : cache.Exact) (name : String) {entry : Nat × CacheEntry}
    (member : entry ∈ cache.entries)
    : (tiedTo cache.ties name).contains entry.1 = decide (name ∈ entry.2.tree.ties) := by
  have found := exact.distinct.mem_iff.mp member
  rw [Bool.eq_iff_iff, List.contains_iff_mem, decide_eq_true_iff, exact.ties name]
  simp [found]

/-- The entries that do not depend on a name are those of templates that are not tied to it. -/
theorem filter_untied (exact : cache.Exact) (name : String)
    : cache.entries.filter (fun entry => !(tiedTo cache.ties name).contains entry.1)
      = cache.entries.filter fun entry => name ∉ entry.2.tree.ties := by
  apply List.filter_congr
  intro entry member
  rw [exact.contains_tiedTo name member, decide_not]

theorem entries_detach (exact : cache.Exact) (name : String)
    : (cache.detach name).2.entries
      = cache.entries.filter fun entry => name ∉ entry.2.tree.ties :=
  (entries_removeAll ..).trans (exact.filter_untied name)

theorem count_detach (exact : cache.Exact) (name : String)
    : (cache.detach name).1 = (cache.dependents name).length := by
  have distinct : Distinct { cache with ties := Fields.erase cache.ties name } := exact.distinct
  have counted
      : (cache.detach name).1 + (cache.detach name).2.entries.length = cache.entries.length :=
    distinct.count_removeAll _
  rw [exact.entries_detach name, ← length_dependents cache name] at counted
  exact Nat.add_right_cancel counted

/-- What is left without a name is exact. The ties to the name itself are gone with the entries
that depend on it, and the ties to other names are lost with their templates only.
-/
theorem detach (exact : cache.Exact) (name : String) : (cache.detach name).2.Exact where
  distinct := exact.distinct.filter (entries_removeAll ..)
  ties other id := by
    by_cases same : name = other
    · subst same
      constructor
      · intro tied
        have left := mem_tiedTo_removeAll tied
        simp [tiedTo, Fields.get?_erase] at left
      · rintro ⟨entry, found, tied⟩
        rw [Cache.detach, find?_removeAll] at found
        obtain ⟨untied, wasFound⟩ := Option.ite_none_left_eq_some.mp found
        exact absurd ((exact.ties name id).mpr ⟨entry, wasFound, tied⟩) untied
    · exact (((exact.ties other).erase same).removeAll _) id
  compiles id entry found := by
    rw [Cache.detach, find?_removeAll] at found
    exact exact.compiles id entry (Option.ite_none_left_eq_some.mp found).2

/-- Giving a name another meaning removes the entries that depend on the name, counts them and
keeps the cache exact.
-/
theorem invalidate (exact : cache.Exact) (name : String)
    : (cache.invalidate name).2.entries
        = cache.entries.filter (fun entry => name ∉ entry.2.tree.ties)
      ∧ (cache.invalidate name).2.stats
        = { cache.stats with
            invalidations := cache.stats.invalidations + (cache.dependents name).length }
      ∧ (cache.invalidate name).2.Exact := by
  cases isTied : Fields.get? cache.ties name with
  | none =>
      have nothing : (cache.invalidate name).2 = cache := by simp only [Cache.invalidate, isTied]
      have all := exact.filter_untied name
      have untied : tiedTo cache.ties name = [] := by rw [tiedTo, isTied]; rfl
      rw [untied, List.filter_eq_self.mpr (by simp)] at all
      have counted := length_dependents cache name
      rw [← all] at counted
      rw [nothing, Nat.add_eq_right.mp counted]
      exact ⟨all, rfl, exact⟩
  | some ids =>
      rw [invalidate_tied isTied, exact.count_detach]
      exact ⟨exact.entries_detach name, rfl, (exact.detach name).same rfl rfl⟩

end Exact

end Cache

-----------------------------------------------------------------------------------------
-- The use of templates
-----------------------------------------------------------------------------------------

/-- The stores that the use of templates leads to. A render leads to no other ones, neither at its
end nor where its code asks for a template.
-/
inductive Store.Used (settings : Settings) (store : Store) : Store → Prop
  | start : Store.Used settings store store
  | serial {later : Store} (used : Store.Used settings store later)
    : Store.Used settings store { later with nextSerial := later.nextSerial + 1 }
  | hit {later : Store} (used : Store.Used settings store later)
    : Store.Used settings store { later with cache := later.cache.countHit }
  | read {later : Store} {template : Template} {tree : Tree}
    (used : Store.Used settings store later)
    (absent : later.cache.find? template.id = none)
    (parsed
      : Tree.parse settings.registry.resolver settings.options.read template.fragments = .ok tree)
    : Store.Used settings store
        { later with
          cache := (later.cache.insert template.id (.ofTree settings.registry tree)).2 }
  | compiled {later : Store} {id : Nat} {entry : CacheEntry} {compiled : Compiled}
    (used : Store.Used settings store later)
    (found : later.cache.find? id = some entry)
    (made : Compiled.ofTree entry.tree entry.components = .ok compiled)
    : Store.Used settings store
        { later with cache := later.cache.countCompile.setCompiled id compiled }
  | dropped {later : Store} {id : Nat} (used : Store.Used settings store later)
    : Store.Used settings store { later with cache := (later.cache.remove id).2 }

namespace Store.Used

variable {settings : Settings} {store : Store}

theorem lasting (settings : Settings) (known : Template → Prop) (store : Store)
    : Store.Lasting settings known (Store.Used settings store) where
  serial := .serial
  hit := .hit
  read now _ absent parsed := .read now absent parsed
  compiled := .compiled
  dropped := .dropped

/-- What the use of templates keeps holds wherever it leads, by induction on the use. -/
theorem keeps {holds : Store → Prop}
    (lasting : Store.Lasting settings (fun _ => True) holds) (now : holds store) {later : Store}
    (used : Store.Used settings store later)
    : holds later := by
  induction used with
  | start => exact now
  | serial _ ih => exact lasting.serial ih
  | hit _ ih => exact lasting.hit ih
  | read _ absent parsed ih => exact lasting.read ih trivial absent parsed
  | compiled _ found made ih => exact lasting.compiled ih found made
  | dropped _ ih => exact lasting.dropped ih

/-- A whole render does nothing to the store but use templates. -/
theorem performed (engine : Engine) (host : Host) (request : RenderRequest)
    : Store.Used engine.settings engine.store (engine.perform host request).2.store :=
  (lasting engine.settings (fun _ => True) engine.store).performed host.keeps_true
    request.within_true .start

end Store.Used

/-- Registering a component drops the templates of its name, unless the name means what it did. -/
theorem Engine.registerOne_cache {engine changed : Engine} {name : String} {component : Component}
    (registers : engine.registerOne name component = .ok changed)
    : changed.store.cache
      = if engine.settings.registry.find? name = some component then
          engine.store.cache
        else
          (engine.store.cache.invalidate name).2 := by
  simp only [Engine.registerOne, Registry.register] at registers
  split at registers
  next => cases registers
  next isChanged registry registering =>
      obtain rfl := Except.ok.inj registers
      split at registering
      · cases registering
      · obtain ⟨rfl, -⟩ := Prod.mk.inj (Except.ok.inj registering)
        by_cases same : engine.settings.registry.find? name = some component <;> simp [same]

namespace Cache.Exact

/-- The use of templates keeps the cache exact. -/
theorem lasting (settings : Settings) (known : Template → Prop)
    : Store.Lasting settings known fun store => store.cache.Exact where
  serial now := now
  hit now := now.same rfl rfl
  read {_ _ tree} now _ absent _ :=
    now.insert absent fun serial => CacheEntry.compiles_ofTree settings.registry tree serial
  compiled {store _ _ _} now found made :=
    have counted : store.cache.countCompile.Exact := now.same rfl rfl
    counted.setCompiled found made
  dropped now := now.remove _

/-- The cache is exact in all states that an engine can come to. -/
theorem invariant (known : Template → Prop)
    : Engine.Invariant known fun _ store => store.cache.Exact where
  start _ := Cache.Exact.clear {}
  used settings := lasting settings known
  cleared _ := Cache.Exact.clear _
  registered {engine changed name component} now registers := by
    rw [Engine.registerOne_cache registers]
    split
    · exact now
    · exact (now.invalidate name).2.2

end Cache.Exact

-----------------------------------------------------------------------------------------
-- Failures
-----------------------------------------------------------------------------------------

/-- Nothing is left of a template, and the other entries are what they were. -/
structure Cache.Forgets (before after : Cache) (id : Nat) : Prop where
  absent : after.find? id = none
  untied : ∀ name, id ∉ Cache.tiedTo after.ties name
  others : ∀ other, other ≠ id → after.find? other = before.find? other

namespace Work

variable {settings : Settings} {template : Template} {store later : Store}

/-- A template whose fragments cannot be read is not in the cache, and nothing changes. -/
theorem entry_fails {error : Error} (failed : entry settings template store = (.error error, later))
    : later = store ∧ store.cache.find? template.id = none := by
  rw [entry_apply] at failed
  split at failed
  next => cases (Prod.mk.inj failed).1
  next absent =>
      split at failed
      · exact ⟨(Prod.mk.inj failed).2.symm, absent⟩
      · cases (Prod.mk.inj failed).1

/-- Asking for an entry changes no other one. -/
theorem entry_others {result : Except Error CacheEntry}
    (asked : entry settings template store = (result, later)) {other : Nat}
    (differs : other ≠ template.id)
    : later.cache.find? other = store.cache.find? other := by
  rw [entry_apply] at asked
  split at asked
  · rw [← (Prod.mk.inj asked).2]
    rfl
  · split at asked
    · rw [(Prod.mk.inj asked).2]
    · rw [← (Prod.mk.inj asked).2]
      exact (Cache.find?_insert ..).trans (if_neg differs)

/-- A template that cannot be compiled is not in the cache afterwards, and no other entry is
changed. It may have been there before, when it had only been read.
-/
theorem compile_fails {error : Error}
    (failed : compile settings template store = (.error error, later))
    : later.cache.find? template.id = none
      ∧ ∀ other, other ≠ template.id → later.cache.find? other = store.cache.find? other := by
  rw [compile_apply] at failed
  cases asked : entry settings template store with
  | mk result reached =>
      rw [asked] at failed
      cases result with
      | error error =>
          obtain ⟨-, rfl⟩ := Prod.mk.inj failed
          obtain ⟨rfl, absent⟩ := entry_fails asked
          exact ⟨absent, fun _ _ => rfl⟩
      | ok found =>
          simp only at failed
          split at failed
          · cases (Prod.mk.inj failed).1
          · split at failed
            · cases (Prod.mk.inj failed).1
            · obtain ⟨-, rfl⟩ := Prod.mk.inj failed
              refine ⟨(Cache.find?_remove ..).trans (if_pos rfl), fun other differs => ?_⟩
              rw [Cache.find?_remove, if_neg differs]
              exact entry_others asked differs

end Work

/-- An exact cache without an entry has no ties of its template. -/
theorem Cache.Exact.forgets {before after : Cache} (exact : after.Exact) {id : Nat}
    (absent : after.find? id = none)
    (others : ∀ other, other ≠ id → after.find? other = before.find? other)
    : before.Forgets after id := by
  refine ⟨absent, fun name tied => ?_, others⟩
  obtain ⟨entry, found, -⟩ := (exact.ties name id).mp tied
  simp [absent] at found

namespace Engine

/-- What is known of the cache of an engine, of what registering does to it, and of what is left
of a template that cannot be read or compiled, be it in the middle of a render.
-/
structure Exact (engine : Engine) : Prop where
  cache : ∀ store, Store.Used engine.settings engine.store store → store.cache.Exact
  renamed
    : ∀ name component changed,
        engine.registerOne name component = .ok changed
        → engine.settings.registry.find? name ≠ some component
        → changed.store.cache.entries
            = engine.store.cache.entries.filter (fun entry => name ∉ entry.2.tree.ties)
          ∧ changed.store.cache.stats
            = { engine.store.cache.stats with
                invalidations :=
                  engine.store.cache.stats.invalidations
                  + (engine.store.cache.dependents name).length }
  again
    : ∀ name component changed,
        engine.registerOne name component = .ok changed
        → engine.settings.registry.find? name = some component
        → changed.store.cache = engine.store.cache
  parseFails
    : ∀ store template error later,
        Store.Used engine.settings engine.store store
        → ({ engine with store } : Engine).parse template = (.error error, later)
        → store.cache.Forgets later.store.cache template.id
  compileFails
    : ∀ store template error later,
        Store.Used engine.settings engine.store store
        → ({ engine with store } : Engine).compile template = (.error error, later)
        → store.cache.Forgets later.store.cache template.id

/-- The index of ties is exact in every state that an engine can come to, whether the steps that
lead to it succeed or fail.
-/
theorem ties_exact {host : Host} {engine : Engine}
    (reached : Engine.Reachable host (fun _ => True) engine)
    : engine.Exact := by
  have now : engine.store.cache.Exact :=
    (Cache.Exact.invariant fun _ => True).reachable host.keeps_true reached
  have exact (store : Store) (used : Store.Used engine.settings engine.store store)
      : store.cache.Exact :=
    used.keeps (Cache.Exact.lasting engine.settings _) now
  refine ⟨exact, ?_, ?_, ?_, ?_⟩
  · intro name component changed registers differs
    obtain ⟨entries, stats, -⟩ := now.invalidate name
    rw [registerOne_cache registers, if_neg differs]
    exact ⟨entries, stats⟩
  · intro name component changed registers same
    rw [registerOne_cache registers, if_pos same]
  · intro store template error later used failed
    have after : (Work.entry engine.settings template store).2.cache.Exact :=
      (Cache.Exact.lasting engine.settings fun _ => True).entry trivial (exact store used)
    cases asked : Work.entry engine.settings template store with
    | mk result reached =>
        rw [asked] at after
        simp only [parse, doWork, ExceptT.run, asked] at failed
        obtain ⟨rfl, rfl⟩ := Prod.mk.inj failed
        obtain ⟨rfl, absent⟩ := Work.entry_fails asked
        exact after.forgets absent fun _ _ => rfl
  · intro store template error later used failed
    have after : (Work.compile engine.settings template store).2.cache.Exact :=
      (Cache.Exact.lasting engine.settings fun _ => True).compile trivial (exact store used)
    cases asked : Work.compile engine.settings template store with
    | mk result reached =>
        rw [asked] at after
        simp only [compile, doWork, ExceptT.run, asked] at failed
        obtain ⟨rfl, rfl⟩ := Prod.mk.inj failed
        obtain ⟨absent, others⟩ := Work.compile_fails asked
        exact after.forgets absent others

/-- An engine with a template that depends on a name and one that does not. -/
def twoTemplates : Engine :=
  [.register [("Card", .alias "div")], .parse ⟨0, ["<Card></Card>"]⟩,
    .compile ⟨1, ["<p></p>"]⟩].foldl
    (EngineStep.after (.constant fun _ => .undefined)) (Engine.ofOptions {})

theorem reachable_twoTemplates
    : Engine.Reachable (.constant fun _ => .undefined) (fun _ => True) twoTemplates :=
  (Engine.Reachable.start {}).foldl _

/-- Giving the name another meaning drops the one template and keeps the other one compiled. -/
theorem ties_exact_two_templates
    : twoTemplates.Exact
      ∧ ((twoTemplates.registerOne "Card" (.alias "section")).toOption.map fun changed =>
            (changed.store.cache.entries.map fun entry => (entry.1, entry.2.compiled.isSome),
              changed.store.cache.stats.invalidations))
        = some ([(1, true)], 1) :=
  ⟨ties_exact reachable_twoTemplates, by decide +kernel⟩

end Engine

end TaggedMarkup
