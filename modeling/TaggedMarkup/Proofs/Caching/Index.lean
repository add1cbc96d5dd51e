import TaggedMarkup.Cache
import TaggedMarkup.Proofs.Fields

/-! The cache finds the templates that depend on a name through an index of ties. The index
covers every template in the cache, so giving a name another meaning reaches all of them.
-/

namespace TaggedMarkup.Cache

-----------------------------------------------------------------------------------------
-- Entries
-----------------------------------------------------------------------------------------

/-- Entries that are kept by their numbers are found, and no others are. -/
theorem lookup_filter (keep : Nat → Bool) (id : Nat) (entries : List (Nat × CacheEntry))
    : (entries.filter fun entry => keep entry.1).lookup id
      = if keep id then entries.lookup id else none := by
  induction entries with
  | nil => simp
  | cons entry rest ih =>
      obtain ⟨first, found⟩ := entry
      by_cases same : id = first
      · subst same
        cases kept : keep id with
        | true => simp [kept]
        | false => simpa [kept] using ih
      · cases kept : keep first <;> simp [kept, List.lookup_cons, beq_false_of_ne same, ih]

/-- The entries without one template have all the others. -/
theorem lookup_entriesWithout (id other : Nat) (entries : List (Nat × CacheEntry))
    : (entriesWithout id entries).lookup other
      = if other = id then none else entries.lookup other := by
  rw [entriesWithout, lookup_filter (fun key => key != id)]
  by_cases same : other = id <;> simp [same]

/-- An added template is found, and so are the others as before. -/
theorem find?_insert (cache : Cache) (id other : Nat) (entry : CacheEntry)
    : (cache.insert id entry).2.find? other
      = if other = id then
          some { entry with serial := cache.stats.parses }
        else
          cache.find? other := by
  simp only [insert, find?, List.lookup_append, lookup_entriesWithout, List.lookup_cons,
    List.lookup_nil]
  by_cases same : other = id
  · simp [same]
  · simp only [if_neg same, beq_false_of_ne same, Option.or_none]

/-- A removed template is not found, and the others are as before. -/
theorem find?_remove (cache : Cache) (id other : Nat)
    : (cache.remove id).2.find? other = if other = id then none else cache.find? other := by
  simp only [remove]
  split
  next absent =>
      by_cases same : other = id
      · simpa only [same, if_true] using absent
      · simp only [if_neg same]
  next => exact lookup_entriesWithout id other cache.entries

/-- Keeping a compiled form changes the entry of its template only. -/
theorem find?_setCompiled (cache : Cache) (id other : Nat) (compiled : Compiled)
    : (cache.setCompiled id compiled).find? other
      = (cache.find? other).map fun entry =>
          if other = id then { entry with compiled := some compiled } else entry := by
  obtain ⟨entries, ties, stats⟩ := cache
  simp only [setCompiled, find?]
  induction entries with
  | nil => rfl
  | cons entry rest ih =>
      obtain ⟨first, found⟩ := entry
      simp only [List.map_cons, List.lookup_cons, ih]
      by_cases same : other = first
      · simp [same]
      · simp only [beq_false_of_ne same]

/-- Several templates are removed one after the other, also those that are not there. -/
theorem removeAll_cons (cache : Cache) (id : Nat) (rest : List Nat)
    : (cache.removeAll (id :: rest)).2 = ((cache.remove id).2.removeAll rest).2 := by
  cases removal : cache.remove id with
  | mk taken smaller => cases taken <;> simp only [removeAll, removal]

/-- Removed templates are not found, and the others are as before. The induction is on the list
of templates.
-/
theorem find?_removeAll (cache : Cache) (ids : List Nat) (id : Nat)
    : (cache.removeAll ids).2.find? id = if id ∈ ids then none else cache.find? id := by
  induction ids generalizing cache with
  | nil => simp [removeAll]
  | cons first rest ih =>
      rw [removeAll_cons, ih, find?_remove]
      by_cases same : id = first <;> simp [same]

-----------------------------------------------------------------------------------------
-- Ties
-----------------------------------------------------------------------------------------

def tiedTo (ties : Fields (List Nat)) (name : String) : List Nat :=
  (Fields.get? ties name).getD []

/-- Tying a template keeps all ties and adds its own. -/
theorem mem_tiedTo_tie {ties : Fields (List Nat)} {id other : Nat} {written name : String}
    : other ∈ tiedTo (tie id ties written) name
      ↔ other ∈ tiedTo ties name ∨ other = id ∧ name = written := by
  simp only [tie, tiedTo, Fields.get?_insert]
  by_cases same : written = name
  · subst same
    simp only [if_true, Option.getD_some, and_true]
    split
    next present =>
        refine ⟨.inl, ?_⟩
        rintro (old | rfl)
        · exact old
        · simpa using present
    next => simp
  · simp [same, Ne.symm same]

/-- Tying a template to several names, by induction on them. -/
theorem mem_tiedTo_ties {ties : Fields (List Nat)} {id other : Nat} {names : List String}
    {name : String}
    : other ∈ tiedTo (names.foldl (tie id) ties) name
      ↔ other ∈ tiedTo ties name ∨ other = id ∧ name ∈ names := by
  induction names generalizing ties with
  | nil => simp
  | cons first rest ih =>
      rw [List.foldl_cons, ih, mem_tiedTo_tie, List.mem_cons, or_assoc, ← and_or_left]

/-- Removing a tie of a template keeps all the others. -/
theorem mem_tiedTo_untie {ties : Fields (List Nat)} {id other : Nat} {written name : String}
    : other ∈ tiedTo (untie id ties written) name
      ↔ other ∈ tiedTo ties name ∧ ¬(other = id ∧ name = written) := by
  simp only [untie]
  split
  next ids found =>
      simp only [tiedTo, Fields.get?_insert]
      by_cases same : written = name
      · subst same
        simp [found, without]
      · simp [same, Ne.symm same]
  next absent =>
      refine ⟨fun tied => ⟨tied, ?_⟩, And.left⟩
      rintro ⟨-, rfl⟩
      simp [tiedTo, absent] at tied

/-- Removing the ties of a template to several names, by induction on them. -/
theorem mem_tiedTo_unties {ties : Fields (List Nat)} {id other : Nat} {names : List String}
    {name : String}
    : other ∈ tiedTo (names.foldl (untie id) ties) name
      ↔ other ∈ tiedTo ties name ∧ ¬(other = id ∧ name ∈ names) := by
  induction names generalizing ties with
  | nil => simp
  | cons first rest ih =>
      rw [List.foldl_cons, ih, mem_tiedTo_untie, List.mem_cons, and_or_left, not_or, and_assoc]

-----------------------------------------------------------------------------------------
-- The index covers the cache
-----------------------------------------------------------------------------------------

/-- If a template is in the cache, it is tied to the names that its tree depends on. -/
def IndexedAt (cache : Cache) (id : Nat) : Prop :=
  ∀ entry,
    cache.find? id = some entry → ∀ name ∈ entry.tree.ties, id ∈ tiedTo cache.ties name

/-- Every template in the cache is tied to the names that its tree depends on. -/
def Indexed (cache : Cache) : Prop :=
  ∀ id, cache.IndexedAt id

theorem indexed_clear (cache : Cache) : cache.clear.Indexed := by
  intro id entry found
  simp [find?, clear] at found

theorem Indexed.insert {cache : Cache} (indexed : cache.Indexed) (id : Nat)
    (entry : CacheEntry)
    : (cache.insert id entry).2.Indexed := by
  intro other found isFound name tied
  rw [find?_insert] at isFound
  simp only [Cache.insert]
  apply mem_tiedTo_ties.mpr
  by_cases same : other = id
  · simp only [same, if_true, Option.some.injEq] at isFound
    subst isFound
    exact .inr ⟨same, tied⟩
  · simp only [if_neg same] at isFound
    exact .inl (indexed other found isFound name tied)

/-- A template is removed with its ties, and the others keep theirs. -/
theorem IndexedAt.remove {cache : Cache} {other : Nat} (indexed : cache.IndexedAt other)
    (id : Nat)
    : (cache.remove id).2.IndexedAt other := by
  intro found isFound name tied
  rw [find?_remove] at isFound
  by_cases same : other = id
  · simp [same] at isFound
  · simp only [if_neg same] at isFound
    have member := indexed found isFound name tied
    simp only [Cache.remove]
    split
    · exact member
    · exact mem_tiedTo_unties.mpr ⟨member, fun removed => same removed.1⟩

/-- Several templates are removed with their ties, by induction on the list of them. -/
theorem IndexedAt.removeAll {cache : Cache} {other : Nat} (indexed : cache.IndexedAt other)
    (ids : List Nat)
    : (cache.removeAll ids).2.IndexedAt other := by
  induction ids generalizing cache with
  | nil => exact indexed
  | cons id rest ih =>
      rw [removeAll_cons]
      exact ih (indexed.remove id)

/-- Keeping a compiled form changes neither trees nor ties. -/
theorem Indexed.setCompiled {cache : Cache} (indexed : cache.Indexed) (id : Nat)
    (compiled : Compiled)
    : (cache.setCompiled id compiled).Indexed := by
  intro other found isFound name tied
  rw [find?_setCompiled] at isFound
  obtain ⟨entry, wasFound, same⟩ := Option.map_eq_some_iff.mp isFound
  apply indexed other entry wasFound name
  subst same
  split at tied <;> exact tied

-----------------------------------------------------------------------------------------
-- Giving a name another meaning
-----------------------------------------------------------------------------------------

/-- Templates that stay after a name has got another meaning were there before, and their
trees do not depend on the name.
-/
theorem Indexed.find?_invalidate {cache : Cache} (indexed : cache.Indexed) {name : String}
    {id : Nat} {entry : CacheEntry} (found : (cache.invalidate name).2.find? id = some entry)
    : cache.find? id = some entry ∧ name ∉ entry.tree.ties := by
  simp only [invalidate] at found
  split at found
  next absent =>
      refine ⟨found, ?_⟩
      intro tied
      simpa [tiedTo, absent] using indexed id entry found name tied
  next ids present =>
      obtain ⟨notRemoved, wasFound⟩ := Option.ite_none_left_eq_some.mp (find?_removeAll .. ▸ found)
      refine ⟨wasFound, fun tied => notRemoved ?_⟩
      simpa [tiedTo, present] using indexed id entry wasFound name tied

/-- The templates that stay after a name has got another meaning are covered. -/
theorem Indexed.invalidate {cache : Cache} (indexed : cache.Indexed) (name : String)
    : (cache.invalidate name).2.Indexed := by
  intro id entry found
  obtain ⟨wasFound, free⟩ := indexed.find?_invalidate found
  have before : IndexedAt { cache with ties := Fields.erase cache.ties name } id := by
    intro other isFound tie tied
    have same : entry = other := Option.some.inj (wasFound.symm.trans isFound)
    subst same
    have differs : name ≠ tie := fun same => free (same ▸ tied)
    simpa only [tiedTo, Fields.get?_erase, if_neg differs]
      using indexed id entry wasFound tie tied
  simp only [Cache.invalidate] at found ⊢
  split at found
  next absent => exact indexed id entry found
  next ids present => exact before.removeAll ids entry found

end TaggedMarkup.Cache
