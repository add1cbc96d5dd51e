import TaggedMarkup.Proofs.Caching.Exactness

/-! The life of templates in a cache. A template that is not in the cache is read, then it may be
compiled, and it is removed. What happens to the templates accounts for the counters of the cache,
and between two removals of a template it is read once at most and compiled once at most.
-/

namespace TaggedMarkup

-----------------------------------------------------------------------------------------
-- Events
-----------------------------------------------------------------------------------------

/-- What happens to a template in a cache. -/
inductive CacheEvent where
  | hit (id : Nat)
  | parsed (id : Nat)
  | compiled (id : Nat)
  /-- The template is removed because it cannot be compiled. -/
  | failed (id : Nat)
  /-- The template is removed because a name that it depends on means something else. -/
  | invalidated (id : Nat)
  /-- The template is removed with all others. -/
  | cleared (id : Nat)
deriving DecidableEq, Repr

/-- What a cache has of a template. -/
inductive Life where
  | absent
  | read
  | compiled
deriving DecidableEq, Repr

namespace CacheEvent

def id : CacheEvent → Nat
  | .hit id | .parsed id | .compiled id | .failed id | .invalidated id | .cleared id => id

def isHit : CacheEvent → Bool
  | .hit _ => true
  | _ => false

def isParsed : CacheEvent → Bool
  | .parsed _ => true
  | _ => false

def isCompiled : CacheEvent → Bool
  | .compiled _ => true
  | _ => false

def isInvalidated : CacheEvent → Bool
  | .invalidated _ => true
  | _ => false

/-- Whether the template is not in the cache any more. -/
def isRemoval : CacheEvent → Bool
  | .failed _ | .invalidated _ | .cleared _ => true
  | _ => false

/-- What a cache has of a template after an event, if the event can happen to the template. -/
def next? (id : Nat) (life : Life) (event : CacheEvent) : Option Life :=
  if event.id = id then
    match event, life with
    | .hit _, .read => some .read
    | .hit _, .compiled => some .compiled
    | .parsed _, .absent => some .read
    | .compiled _, .read => some .compiled
    | .failed _, .read => some .absent
    | .invalidated _, .read | .invalidated _, .compiled => some .absent
    | .cleared _, .read | .cleared _, .compiled => some .absent
    | _, _ => none
  else
    some life

/-- As many templates are dropped because of a name as are removed for it, at most. -/
theorem invalidated_le (log : List CacheEvent)
    : log.countP isInvalidated ≤ log.countP isRemoval := by
  apply List.countP_mono_left
  intro event _ isInvalidated
  cases event <;> first | rfl | cases isInvalidated

/-- A template without a removal is read only if it is absent, and compiled only if it is not
compiled already, by induction on what happens.
-/
theorem once {id : Nat} {log : List CacheEvent} {life last : Life}
    (kept : ∀ event ∈ log, event.isRemoval = true → event.id ≠ id)
    (lives : log.foldlM (next? id) life = some last)
    : log.count (.parsed id) ≤ (if life = .absent then 1 else 0)
      ∧ log.count (.compiled id) ≤ (if life = .compiled then 0 else 1) := by
  induction log generalizing life with
  | nil => simp
  | cons event rest ih =>
      simp only [List.foldlM_cons] at lives
      obtain ⟨middle, first, later⟩ := Option.bind_eq_some_iff.mp lives
      obtain ⟨parsed, compiled⟩ := ih (fun other member => kept other (.tail _ member)) later
      by_cases own : event.id = id
      · simp only [next?, if_pos own] at first
        have notRemoved := kept event (.head _)
        cases event with
        | hit other | parsed other | compiled other =>
            obtain rfl : other = id := own
            cases life <;> cases first <;> simp_all
        | failed other | invalidated other | cleared other => exact absurd own (notRemoved rfl)
      · simp only [next?, if_neg own] at first
        obtain rfl := Option.some.inj first
        have notParsed : event ≠ .parsed id := fun same => own (same ▸ rfl)
        have notCompiled : event ≠ .compiled id := fun same => own (same ▸ rfl)
        rw [List.count_cons_of_ne notParsed, List.count_cons_of_ne notCompiled]
        exact ⟨parsed, compiled⟩

theorem countP_all {event : Nat → CacheEvent} {kind : CacheEvent → Bool}
    (all : ∀ id, kind (event id) = true) (ids : List Nat)
    : (ids.map event).countP kind = ids.length := by
  rw [List.countP_map, List.countP_eq_length]
  intro id _
  exact all id

theorem countP_none {event : Nat → CacheEvent} {kind : CacheEvent → Bool}
    (none : ∀ id, kind (event id) = false) (ids : List Nat)
    : (ids.map event).countP kind = 0 := by
  simp [List.countP_eq_zero, none]

/-- A way to remove a template, whether it is compiled or not. -/
structure Removes (remove : Nat → CacheEvent) : Prop where
  own : ∀ id, (remove id).id = id
  notHit : ∀ id, (remove id).isHit = false
  notParsed : ∀ id, (remove id).isParsed = false
  notCompiled : ∀ id, (remove id).isCompiled = false
  removal : ∀ id, (remove id).isRemoval = true
  absent : ∀ id life, life ≠ .absent → next? id life (remove id) = some .absent

theorem removes_invalidated : Removes .invalidated where
  own _ := rfl
  notHit _ := rfl
  notParsed _ := rfl
  notCompiled _ := rfl
  removal _ := rfl
  absent id life present := by
    cases life with
    | absent => contradiction
    | read | compiled => exact if_pos rfl

theorem removes_cleared : Removes .cleared where
  own _ := rfl
  notHit _ := rfl
  notParsed _ := rfl
  notCompiled _ := rfl
  removal _ := rfl
  absent id life present := by
    cases life with
    | absent => contradiction
    | read | compiled => exact if_pos rfl

/-- Templates that are removed one after another are absent, and all others are kept. -/
theorem Removes.lives {remove : Nat → CacheEvent} (removes : Removes remove)
    {ids : List Nat} (distinct : ids.Nodup) {id : Nat} {life : Life}
    (present : id ∈ ids → life ≠ .absent)
    : (ids.map remove).foldlM (next? id) life
      = some (if id ∈ ids then .absent else life) := by
  induction ids generalizing life with
  | nil => rfl
  | cons first rest ih =>
      obtain ⟨absent, distinct⟩ := List.nodup_cons.mp distinct
      simp only [List.map_cons, List.foldlM_cons]
      by_cases same : first = id
      · subst same
        rw [removes.absent first life (present (by simp)), Option.bind_eq_bind,
          Option.bind_some, ih distinct (fun member => absurd member absent)]
        simp [absent]
      · have passed : next? id life (remove first) = some life := by
          simp only [next?, removes.own, if_neg same]
        rw [passed, Option.bind_eq_bind, Option.bind_some,
          ih distinct fun member => present (by simp [member])]
        simp [Ne.symm same]

end CacheEvent

-----------------------------------------------------------------------------------------
-- Accounts
-----------------------------------------------------------------------------------------

namespace Cache

def life (cache : Cache) (id : Nat) : Life :=
  match cache.find? id with
  | none => .absent
  | some entry => if entry.compiled.isSome then .compiled else .read

/-- How many templates have been read and not been compiled. -/
def pending (cache : Cache) : Nat :=
  cache.entries.countP fun entry => entry.2.compiled.isNone

/-- An entry that gets a compiled form is not pending any more. -/
theorem pending_setCompiled (cache : Cache) (id : Nat) (form : Compiled)
    : (cache.setCompiled id form).pending
      = cache.entries.countP fun entry => entry.1 != id && entry.2.compiled.isNone := by
  rw [pending, setCompiled, List.countP_map]
  apply List.countP_congr
  rintro ⟨other, entry⟩ -
  by_cases same : other = id <;> simp [same]

/-- One template less is pending when it is compiled. -/
theorem pending_setCompiled_lt {cache : Cache} {id : Nat} {entry : CacheEntry} (form : Compiled)
    (member : (id, entry) ∈ cache.entries) (uncompiled : entry.compiled = none)
    : (cache.setCompiled id form).pending < cache.pending := by
  obtain ⟨first, rest, split⟩ := List.append_of_mem member
  have fewer (entries : List (Nat × CacheEntry))
      : (entries.countP fun entry => entry.1 != id && entry.2.compiled.isNone)
        ≤ entries.countP fun entry => entry.2.compiled.isNone := by
    apply List.countP_mono_left
    intro entry _ isPending
    exact (Bool.and_eq_true_iff.mp isPending).2
  have fewerFirst := fewer first
  have fewerRest := fewer rest
  rw [pending_setCompiled, pending, split]
  simp only [List.countP_append, List.countP_cons, bne_self_eq_false, Bool.false_and, uncompiled,
    Option.isNone_none, if_true, Bool.false_eq_true, if_false]
  omega

/-- Fewer templates are pending when some are removed. -/
theorem pending_filter {before after : Cache} {keep : Nat × CacheEntry → Bool}
    (fewer : after.entries = before.entries.filter keep)
    : after.pending ≤ before.pending := by
  rw [pending, pending, fewer]
  exact List.filter_sublist.countP_le

/-- The entries that are dropped and those that are left are all entries. -/
theorem size_filter {before after : Cache} {drop : Nat × CacheEntry → Bool}
    (left : after.entries = before.entries.filter fun entry => !drop entry)
    : after.size + (before.entries.filter drop).length = before.size := by
  have split := List.length_eq_countP_add_countP drop (l := before.entries)
  simp only [List.countP_eq_length_filter, Bool.not_eq_true, Bool.decide_eq_false] at split
  rw [size, size, left, split, Nat.add_comm]

/-- The entry of a template that is left is what it was. -/
theorem Distinct.find?_filter {before after : Cache} (distinct : before.Distinct)
    {keep : Nat × CacheEntry → Bool} (left : after.entries = before.entries.filter keep)
    (id : Nat)
    : after.find? id = (before.find? id).filter fun entry => keep (id, entry) := by
  apply Option.ext
  intro entry
  rw [Option.filter_eq_some_iff, ← distinct.mem_iff, ← (distinct.filter left).mem_iff, left,
    List.mem_filter]

/-- What happens to the templates accounts for what a cache counts and what it has. -/
structure Turns (before after : Cache) (log : List CacheEvent) : Prop where
  hits : after.stats.hits = before.stats.hits + log.countP CacheEvent.isHit
  parses : after.stats.parses = before.stats.parses + log.countP CacheEvent.isParsed
  compiles : after.stats.compiles = before.stats.compiles + log.countP CacheEvent.isCompiled
  invalidations
    : after.stats.invalidations
      = before.stats.invalidations + log.countP CacheEvent.isInvalidated
  size
    : after.size + log.countP CacheEvent.isRemoval
      = before.size + log.countP CacheEvent.isParsed
  pending
    : after.pending + log.countP CacheEvent.isCompiled
      ≤ before.pending + log.countP CacheEvent.isParsed
  lives : ∀ id, log.foldlM (CacheEvent.next? id) (before.life id) = some (after.life id)

namespace Turns

variable {before middle after cache : Cache} {log more : List CacheEvent}

theorem refl (cache : Cache) : cache.Turns cache [] := by
  constructor <;> simp

theorem trans (first : before.Turns middle log) (second : middle.Turns after more)
    : before.Turns after (log ++ more) where
  hits := by rw [second.hits, first.hits, List.countP_append, Nat.add_assoc]
  parses := by rw [second.parses, first.parses, List.countP_append, Nat.add_assoc]
  compiles := by rw [second.compiles, first.compiles, List.countP_append, Nat.add_assoc]
  invalidations := by
    rw [second.invalidations, first.invalidations, List.countP_append, Nat.add_assoc]
  size := by
    have := first.size
    have := second.size
    simp only [List.countP_append]
    omega
  pending := by
    have := first.pending
    have := second.pending
    simp only [List.countP_append]
    omega
  lives id := by
    rw [List.foldlM_append, first.lives id]
    exact second.lives id

theorem hit {id : Nat} {entry : CacheEntry} (found : cache.find? id = some entry)
    : cache.Turns cache.countHit [.hit id] where
  hits := rfl
  parses := rfl
  compiles := rfl
  invalidations := rfl
  size := rfl
  pending := Nat.le_refl _
  lives other := by
    have kept : cache.countHit.life other = cache.life other := rfl
    simp only [List.foldlM_cons, List.foldlM_nil, CacheEvent.next?, CacheEvent.id, kept]
    by_cases own : id = other
    · subst own
      simp only [if_true, life, found]
      cases entry.compiled <;> rfl
    · simp [own]

/-- A template that is not in the cache is read. -/
theorem parsed {id : Nat} (absent : cache.find? id = none) {entry : CacheEntry}
    (uncompiled : entry.compiled = none)
    : cache.Turns (cache.insert id entry).2 [.parsed id] where
  hits := rfl
  parses := rfl
  compiles := rfl
  invalidations := rfl
  size := by
    have others : entriesWithout id cache.entries = cache.entries := by
      rw [← entries_remove, Cache.remove, absent]
    simp [Cache.size, Cache.insert, others, CacheEvent.isRemoval, CacheEvent.isParsed]
  pending := by
    have others : entriesWithout id cache.entries = cache.entries := by
      rw [← entries_remove, Cache.remove, absent]
    simp [Cache.pending, Cache.insert, others, uncompiled, CacheEvent.isCompiled,
      CacheEvent.isParsed]
  lives other := by
    simp only [List.foldlM_cons, List.foldlM_nil, CacheEvent.next?, CacheEvent.id, life,
      find?_insert]
    by_cases own : id = other
    · subst own
      simp [absent, uncompiled]
    · simp [own, Ne.symm own]

/-- A template that has been read is compiled. -/
theorem compiled {id : Nat} {entry : CacheEntry} (distinct : cache.Distinct)
    (found : cache.find? id = some entry) (uncompiled : entry.compiled = none) (form : Compiled)
    : cache.Turns (cache.countCompile.setCompiled id form) [.compiled id] where
  hits := rfl
  parses := rfl
  compiles := rfl
  invalidations := rfl
  size := by
    simp [Cache.size, Cache.setCompiled, Cache.countCompile, CacheEvent.isRemoval,
      CacheEvent.isParsed]
  pending := pending_setCompiled_lt form (distinct.mem_iff.mpr found) uncompiled
  lives other := by
    have counted (id : Nat) : cache.countCompile.find? id = cache.find? id := rfl
    simp only [List.foldlM_cons, List.foldlM_nil, CacheEvent.next?, CacheEvent.id, life,
      find?_setCompiled, counted]
    by_cases own : id = other
    · subst own
      simp [found, uncompiled]
    · cases isFound : cache.find? other <;> simp [own, Ne.symm own]

/-- A template that cannot be compiled is removed. -/
theorem failed {id : Nat} {entry : CacheEntry} (distinct : cache.Distinct)
    (found : cache.find? id = some entry) (uncompiled : entry.compiled = none)
    : cache.Turns (cache.remove id).2 [.failed id] where
  hits := by rw [stats_remove]; rfl
  parses := by rw [stats_remove]; rfl
  compiles := by rw [stats_remove]; rfl
  invalidations := by rw [stats_remove]; rfl
  size := distinct.length_remove found
  pending := pending_filter (cache.entries_remove id)
  lives other := by
    simp only [List.foldlM_cons, List.foldlM_nil, CacheEvent.next?, CacheEvent.id, life,
      find?_remove]
    by_cases own : id = other
    · subst own
      simp [found, uncompiled]
    · simp [own, Ne.symm own]

/-- Some templates are removed together, and all others stay what they are. -/
theorem removed {remove : Nat → CacheEvent} (removes : CacheEvent.Removes remove)
    (distinct : before.Distinct) {drop : Nat × CacheEntry → Bool}
    (left : after.entries = before.entries.filter fun entry => !drop entry)
    (stats
      : after.stats
        = { before.stats with
            invalidations :=
              before.stats.invalidations
              + (((before.entries.filter drop).map Prod.fst).map remove).countP
                  CacheEvent.isInvalidated })
    : before.Turns after (((before.entries.filter drop).map Prod.fst).map remove) where
  hits := by rw [stats, CacheEvent.countP_none removes.notHit, Nat.add_zero]
  parses := by rw [stats, CacheEvent.countP_none removes.notParsed, Nat.add_zero]
  compiles := by rw [stats, CacheEvent.countP_none removes.notCompiled, Nat.add_zero]
  invalidations := by rw [stats]
  size := by
    rw [CacheEvent.countP_all removes.removal, List.length_map,
      CacheEvent.countP_none removes.notParsed]
    exact size_filter left
  pending := by
    rw [CacheEvent.countP_none removes.notCompiled,
      CacheEvent.countP_none removes.notParsed]
    exact pending_filter left
  lives id := by
    have distinctDropped : ((before.entries.filter drop).map Prod.fst).Nodup :=
      distinct.sublist (List.filter_sublist.map Prod.fst)
    have dropped
        : id ∈ (before.entries.filter drop).map Prod.fst
          ↔ ∃ entry, before.find? id = some entry ∧ drop (id, entry) = true := by
      simp [← distinct.mem_iff]
    rw [removes.lives distinctDropped]
    · simp only [life, distinct.find?_filter left, dropped]
      cases before.find? id with
      | none => rfl
      | some entry => cases isDropped : drop (id, entry) <;> simp [Option.filter_some, isDropped]
    · intro member
      obtain ⟨entry, found, -⟩ := dropped.mp member
      simp only [life, found]
      cases entry.compiled <;> simp

end Turns

end Cache

end TaggedMarkup
