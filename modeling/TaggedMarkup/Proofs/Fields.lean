import TaggedMarkup.Fields

/-! What reading a name gives after fields have been written, removed or changed. Fields are
read by name only, so these rules are all that is known of them elsewhere.
-/

namespace TaggedMarkup.Fields

variable {α β : Type}

/-- A written name has the value written last, and the others keep theirs. -/
theorem get?_insert (fields : Fields α) (name other : String) (value : α)
    : get? (insert fields name value) other
      = if name = other then some value else get? fields other := by
  induction fields with
  | nil => simp only [insert, get?]
  | cons field rest ih =>
      obtain ⟨first, old⟩ := field
      by_cases written : first = name
      · subst written
        simp only [insert, if_true, get?]
        split <;> rfl
      · simp only [insert, if_neg written, get?, ih]
        by_cases same : first = other
        · subst same
          simp only [if_true, if_neg (Ne.symm written)]
        · simp only [if_neg same]

/-- A removed name has no value, and the others keep theirs. -/
theorem get?_erase (fields : Fields α) (name other : String)
    : get? (erase fields name) other = if name = other then none else get? fields other := by
  induction fields with
  | nil => simp only [erase, List.filter_nil, get?, ite_self]
  | cons field rest ih =>
      obtain ⟨first, old⟩ := field
      simp only [erase] at ih
      by_cases removed : first = name
      · subst removed
        simp only [erase, List.filter_cons, bne_self_eq_false, Bool.false_eq_true, if_false, ih,
          get?]
        split <;> simp [*]
      · have kept : (first != name) = true := by simpa using removed
        simp only [erase, List.filter_cons, kept, if_true, get?, ih]
        by_cases same : first = other
        · subst same
          simp only [if_true, if_neg (Ne.symm removed)]
        · simp only [if_neg same]

/-- A name is contained exactly when it has a value. -/
theorem contains_iff {fields : Fields α} {name : String}
    : contains fields name = true ↔ (get? fields name).isSome = true := by
  induction fields with
  | nil => simp [contains, get?]
  | cons field rest ih =>
      obtain ⟨other, value⟩ := field
      simp only [contains, List.any_cons, get?] at ih ⊢
      by_cases same : other = name
      · simp [same]
      · simpa [same] using ih

/-- The value of a name is among the values of the fields. -/
theorem get?_of_forall {good : α → Prop} {fields : Fields α} {name value}
    (holds : ∀ field ∈ fields, good field.2) (found : get? fields name = some value)
    : good value := by
  induction fields with
  | nil => simp [get?] at found
  | cons field rest ih =>
      obtain ⟨other, first⟩ := field
      simp only [get?] at found
      split at found
      · exact Option.some.inj found ▸ holds (other, first) (by simp)
      · exact ih (fun field member => holds field (by simp [member])) found

/-- What holds of all fields and of a default holds of the field of a name or the default. -/
theorem getD_of_forall {good : α → Prop} {fields : Fields α} {default : α}
    (absent : good default) (holds : ∀ field ∈ fields, good field.2) (name : String)
    : good ((get? fields name).getD default) := by
  cases found : get? fields name with
  | none => exact absent
  | some value => exact get?_of_forall holds found

theorem get?_map (fields : Fields α) (change : α → β) (name : String)
    : get? (fields.map fun field => (field.1, change field.2)) name
      = (get? fields name).map change := by
  induction fields with
  | nil => rfl
  | cons field rest ih =>
      simp only [List.map_cons, get?, ih]
      split <;> rfl

/-- A name is looked for in the first fields and then in the others. -/
theorem get?_append (fields others : List (String × α)) (name : String)
    : get? (fields ++ others) name = (get? fields name).or (get? others name) := by
  induction fields with
  | nil => rfl
  | cons field rest ih =>
      simp only [List.cons_append, get?, ih]
      split <;> rfl

/-- After several writings a name has the value that was written last. -/
theorem get?_insertAll (fields : Fields α) (entries : List (String × α)) (name : String)
    : get? (insertAll fields entries) name
      = (get? entries.reverse name).or (get? fields name) := by
  induction entries generalizing fields with
  | nil => rfl
  | cons entry rest ih =>
      have one : get? [entry] name = if entry.1 = name then some entry.2 else none := rfl
      simp only [insertAll, List.foldl_cons] at ih ⊢
      rw [ih, get?_insert, List.reverse_cons, get?_append, one, Option.or_assoc]
      split <;> rfl

theorem contains_insert (fields : Fields α) (name other : String) (value : α)
    : contains (insert fields name value) other = (contains fields other || name == other) := by
  rw [Bool.eq_iff_iff, contains_iff, get?_insert, Bool.or_eq_true, contains_iff, beq_iff_eq]
  split
  next same => simp [same]
  next differs => simp [differs]

/-- After several writings the names are contained that were before or that have been written. -/
theorem contains_insertAll (fields : Fields α) (entries : List (String × α)) (name : String)
    : contains (insertAll fields entries) name
      = (contains fields name || contains entries name) := by
  induction entries generalizing fields with
  | nil => simp [insertAll, contains]
  | cons entry rest ih =>
      simp only [insertAll, List.foldl_cons] at ih ⊢
      rw [ih, contains_insert, Bool.or_assoc]
      rfl

/-- Fields that are kept whatever their values are have the values that they had. -/
theorem get?_filter (fields : List (String × α)) (keep : String → Bool) (name : String)
    : get? (fields.filter fun field => keep field.1) name
      = if keep name then get? fields name else none := by
  induction fields with
  | nil => simp [get?]
  | cons field rest ih =>
      obtain ⟨other, value⟩ := field
      by_cases same : other = name
      · subst same
        cases kept : keep other <;> simp_all [get?]
      · cases kept : keep other <;> simp_all [get?]

/-- A name has a value when a field has it. -/
theorem get?_isSome_of_mem {fields : List (String × α)} {name : String} {value : α}
    (member : (name, value) ∈ fields)
    : (get? fields name).isSome = true := by
  induction fields with
  | nil => cases member
  | cons field rest ih =>
      simp only [get?]
      split
      next => rfl
      next differs =>
          rcases List.mem_cons.mp member with same | later
          · exact absurd (congrArg Prod.fst same).symm differs
          · exact ih later

/-- A name has no value when no field has it. -/
theorem get?_eq_none_iff {fields : List (String × α)} {name : String}
    : get? fields name = none ↔ ∀ field ∈ fields, field.1 ≠ name := by
  induction fields with
  | nil => simp [get?]
  | cons field rest ih =>
      obtain ⟨other, value⟩ := field
      simp only [get?, List.forall_mem_cons]
      by_cases same : other = name
      · simp [same]
      · simp [same, ih]

theorem mem_of_get? {fields : List (String × α)} {name : String} {value : α}
    (found : get? fields name = some value)
    : (name, value) ∈ fields := by
  induction fields with
  | nil => cases found
  | cons field rest ih =>
      obtain ⟨other, old⟩ := field
      simp only [get?] at found
      split at found
      next same =>
          obtain rfl := same
          exact Option.some.inj found ▸ List.mem_cons_self ..
      next => exact List.mem_cons_of_mem _ (ih found)

/-- With different names a field is what is found under its name. -/
theorem get?_of_mem {fields : List (String × α)} (distinct : (names fields).Nodup)
    {field : String × α} (member : field ∈ fields)
    : get? fields field.1 = some field.2 := by
  induction fields with
  | nil => cases member
  | cons first rest ih =>
      obtain ⟨absent, distinct⟩ := List.nodup_cons.mp distinct
      rcases List.mem_cons.mp member with rfl | later
      · rw [get?, if_pos rfl]
      · have differs : first.1 ≠ field.1 := fun same =>
          absent (same ▸ List.mem_map.mpr ⟨field, later, rfl⟩)
        rw [get?, if_neg differs, ih distinct later]

/-- The order of fields with different names does not matter. -/
theorem get?_perm {fields others : List (String × α)} (distinct : (names fields).Nodup)
    (order : fields.Perm others) (name : String)
    : get? fields name = get? others name := by
  have distinct' : (names others).Nodup := (order.map Prod.fst).nodup_iff.mp distinct
  cases found : get? others name with
  | none =>
      rw [get?_eq_none_iff] at found ⊢
      exact fun field member => found field (order.mem_iff.mp member)
  | some value => exact get?_of_mem distinct (order.mem_iff.mpr (mem_of_get? found))

/-- Values can be changed before or after a name is written. -/
theorem insert_map (fields : Fields α) (change : α → β) (name : String) (value : α)
    : insert (fields.map fun field => (field.1, change field.2)) name (change value)
      = (insert fields name value).map fun field => (field.1, change field.2) := by
  induction fields with
  | nil => rfl
  | cons field rest ih =>
      obtain ⟨other, old⟩ := field
      simp only [insert, List.map_cons]
      split
      · rfl
      · rw [List.map_cons, ← ih]

theorem insert_new {fields : Fields α} {name : String} (absent : name ∉ names fields) (value : α)
    : insert fields name value = fields ++ [(name, value)] := by
  induction fields with
  | nil => rfl
  | cons field rest ih =>
      obtain ⟨other, old⟩ := field
      simp only [names, List.map_cons, List.mem_cons, not_or] at absent
      simp only [insert, if_neg (Ne.symm absent.1), ih absent.2, List.cons_append]

/-- A name that is there already is not written a second time. -/
theorem names_insert (fields : Fields α) (name : String) (value : α)
    : names (insert fields name value)
      = if name ∈ names fields then names fields else names fields ++ [name] := by
  induction fields with
  | nil => rfl
  | cons field rest ih =>
      obtain ⟨other, old⟩ := field
      simp only [names] at ih
      by_cases same : other = name
      · simp [names, insert, same]
      · by_cases member : name ∈ rest.map Prod.fst
        · simp [names, insert, same, member, ih]
        · simp [names, insert, same, member, ih, Ne.symm same]

/-- Names stay different when one of them is written. -/
theorem distinct_insert {fields : Fields α} (distinct : (names fields).Nodup) (name : String)
    (value : α)
    : (names (insert fields name value)).Nodup := by
  rw [names_insert]
  split
  next => exact distinct
  next absent =>
      refine List.nodup_append.mpr ⟨distinct, by simp, ?_⟩
      intro other member added isAdded same
      obtain rfl := List.mem_singleton.mp isAdded
      exact absent (same ▸ member)

theorem distinct_erase {fields : Fields α} (distinct : (names fields).Nodup) (name : String)
    : (names (erase fields name)).Nodup :=
  List.Nodup.sublist (List.filter_sublist.map Prod.fst) distinct

/-- What has been written in several steps has different names. -/
theorem distinct_ofEntries (entries : List (String × α)) : (names (ofEntries entries)).Nodup := by
  have all (fields : Fields α) (distinct : (names fields).Nodup)
      : (names (insertAll fields entries)).Nodup := by
    induction entries generalizing fields with
    | nil => exact distinct
    | cons entry rest ih => exact ih _ (distinct_insert distinct entry.1 entry.2)
  exact all [] List.nodup_nil

/-- The names that have been written are those of the entries. -/
theorem mem_names_ofEntries {entries : List (String × α)} {name : String}
    : name ∈ names (ofEntries entries) ↔ ∃ value, (name, value) ∈ entries := by
  have all (fields : Fields α)
      : name ∈ names (insertAll fields entries)
        ↔ name ∈ names fields ∨ ∃ value, (name, value) ∈ entries := by
    induction entries generalizing fields with
    | nil => simp [insertAll]
    | cons entry rest ih =>
        obtain ⟨other, value⟩ := entry
        have written
            : name ∈ names (insert fields other value) ↔ name ∈ names fields ∨ name = other := by
          rw [names_insert]
          split
          next member =>
              constructor
              · exact .inl
              · rintro (before | rfl)
                · exact before
                · exact member
          next => simp
        have later := ih (insert fields other value)
        simp only [insertAll, List.foldl_cons] at later ⊢
        rw [later, written, or_assoc]
        refine or_congr_right ?_
        simp [exists_or]
  rw [ofEntries, all []]
  simp [names]

/-- With different names it does not matter from which end a name is looked for. -/
theorem get?_reverse {fields : List (String × α)} (distinct : (names fields).Nodup)
    (name : String)
    : get? fields.reverse name = get? fields name := by
  induction fields with
  | nil => rfl
  | cons field rest ih =>
      obtain ⟨other, value⟩ := field
      obtain ⟨absent, distinct⟩ := List.nodup_cons.mp distinct
      have one : get? [(other, value)] name = if other = name then some value else none := rfl
      rw [List.reverse_cons, get?_append, ih distinct, one]
      simp only [get?]
      split
      next same =>
          have nowhere : get? rest name = none := by
            rw [get?_eq_none_iff]
            intro field member isName
            exact absent (List.mem_map.mpr ⟨field, member, isName.trans same.symm⟩)
          rw [nowhere, Option.none_or]
      next => rw [Option.or_none]

/-- Entries with different names are fields as they are. -/
theorem ofEntries_distinct {entries : List (String × α)} (distinct : (names entries).Nodup)
    : ofEntries entries = entries := by
  have all : ∀ fields : Fields α,
      (names (fields ++ entries)).Nodup → insertAll fields entries = fields ++ entries := by
    clear distinct
    induction entries with
    | nil =>
        intro fields _
        exact (List.append_nil fields).symm
    | cons entry rest ih =>
        intro fields distinct
        rw [List.append_cons] at distinct ⊢
        have absent : entry.1 ∉ names fields := by
          simp only [names, List.map_append, List.map_cons, List.map_nil] at distinct
          have apart := (List.nodup_append.mp distinct).1
          intro member
          exact (List.nodup_append.mp apart).2.2 _ member _ (by simp) rfl
        simp only [insertAll, List.foldl_cons, insert_new absent]
        exact ih _ distinct
  exact all [] distinct

/-- Writing a name that is not kept changes nothing of what is kept. -/
theorem filter_insert (fields : Fields α) (keep : String → Bool) (name : String) (value : α)
    : (insert fields name value).filter (fun field => keep field.1)
      = if keep name then
          insert (fields.filter fun field => keep field.1) name value
        else
          fields.filter fun field => keep field.1 := by
  induction fields with
  | nil => cases kept : keep name <;> simp [insert, kept]
  | cons field rest ih =>
      obtain ⟨other, old⟩ := field
      by_cases same : other = name
      · subst same
        cases kept : keep other <;> simp [insert, kept]
      · cases kept : keep other <;> cases kept' : keep name <;>
          simp_all [insert]

/-- What is kept of several writings is what is kept of each. -/
theorem filter_insertAll (fields : Fields α) (entries : List (String × α))
    (keep : String → Bool)
    : (insertAll fields entries).filter (fun field => keep field.1)
      = insertAll (fields.filter fun field => keep field.1)
          (entries.filter fun field => keep field.1) := by
  induction entries generalizing fields with
  | nil => rfl
  | cons entry rest ih =>
      simp only [insertAll, List.foldl_cons] at ih ⊢
      rw [ih, filter_insert]
      cases kept : keep entry.1 <;> simp [kept]

/-- Removing a name that is not kept changes nothing of what is kept. -/
theorem filter_erase (fields : Fields α) (keep : String → Bool) {name : String}
    (unkept : keep name = false)
    : (erase fields name).filter (fun field => keep field.1)
      = fields.filter fun field => keep field.1 := by
  rw [erase, List.filter_filter]
  apply List.filter_congr
  intro field _
  by_cases same : field.1 = name
  · simp [same, unkept]
  · simp [same]

/-- Where all names are different, the fields of a name are the one that is found. -/
theorem filter_name {fields : List (String × α)} (distinct : (names fields).Nodup)
    (name : String)
    : fields.filter (fun field => field.1 == name)
      = (get? fields name).toList.map fun value => (name, value) := by
  induction fields with
  | nil => rfl
  | cons field rest ih =>
      obtain ⟨other, value⟩ := field
      obtain ⟨absent, distinct⟩ := List.nodup_cons.mp distinct
      by_cases same : other = name
      · subst same
        have nowhere : rest.filter (fun field => field.1 == other) = [] := by
          refine List.filter_eq_nil_iff.mpr fun field member isName => absent ?_
          exact List.mem_map.mpr ⟨field, member, eq_of_beq isName⟩
        simp [get?, nowhere]
      · simpa [get?, same] using ih distinct

/-- Writing keeps the first of the names that are there. -/
theorem insertAll_cons (name : String) (first : α) (fields entries : List (String × α))
    : ∃ last others, insertAll ((name, first) :: fields) entries = (name, last) :: others := by
  induction entries generalizing first fields with
  | nil => exact ⟨first, fields, rfl⟩
  | cons entry rest ih =>
      rw [insertAll, List.foldl_cons, insert]
      split
      next same =>
          obtain rfl := same
          exact ih entry.2 fields
      next => exact ih first _

/-- What is written under a name is the only value of the name, where all names are different. -/
theorem eq_of_mem_insert {fields : List (String × α)} {name : String} {value other : α}
    (distinct : (names fields).Nodup) (member : (name, other) ∈ insert fields name value)
    : other = value := by
  induction fields with
  | nil => simpa [insert] using member
  | cons field rest ih =>
      obtain ⟨here, old⟩ := field
      obtain ⟨apart, distinct⟩ := List.nodup_cons.mp distinct
      have absent (found : (here, other) ∈ rest) : False :=
        apart (List.mem_map.mpr ⟨_, found, rfl⟩)
      simp only [insert] at member
      split at member
      next same =>
          obtain rfl := same
          rcases List.mem_cons.mp member with isHere | later
          · exact (Prod.mk.inj isHere).2
          · exact (absent later).elim
      next differs =>
          rcases List.mem_cons.mp member with isHere | later
          · exact absurd (Prod.mk.inj isHere).1.symm differs
          · exact ih distinct later

-----------------------------------------------------------------------------------------
-- Writing more than once
-----------------------------------------------------------------------------------------

section

variable {fields : List (String × α)} {name other : String} {value first : α}

/-- Writing a name that is there changes its value, whatever is written in between. -/
theorem insert_comm (member : name ∈ names fields) (differs : other ≠ name)
    : insert (insert fields other first) name value
      = insert (insert fields name value) other first := by
  induction fields with
  | nil => cases member
  | cons field rest ih =>
      obtain ⟨here, old⟩ := field
      by_cases isName : here = name
      · subst isName
        simp [insert, differs.symm]
      · by_cases isOther : here = other
        · subst isOther
          simp [insert, isName]
        · have later : name ∈ names rest := by simpa [names, Ne.symm isName] using member
          simp [insert, isName, isOther, ih later]

theorem insert_insert (fields : List (String × α)) (name : String) (first value : α)
    : insert (insert fields name first) name value = insert fields name value := by
  induction fields with
  | nil => simp [insert]
  | cons field rest ih =>
      obtain ⟨here, old⟩ := field
      by_cases same : here = name
      · simp [insert, same]
      · simp [insert, same, ih]

theorem erase_erase (fields : List (String × α)) (name : String)
    : erase (erase fields name) name = erase fields name := by
  simp only [erase, List.filter_filter, Bool.and_self]

/-- A name that is written at last may be left out before, where it has its place already. -/
theorem insert_insertAll_erase (entries : List (String × α)) (member : name ∈ names fields)
    : insert (insertAll fields entries) name value
      = insertAll (insert fields name value) (erase entries name) := by
  induction entries generalizing fields with
  | nil => rfl
  | cons entry rest ih =>
      obtain ⟨here, given⟩ := entry
      have stays : name ∈ names (insert fields here given) := by
        rw [names_insert]
        split
        · exact member
        · exact List.mem_append_left _ member
      have last := ih stays
      by_cases same : here = name
      · subst same
        rw [insert_insert] at last
        simpa [insertAll, erase] using last
      · rw [insert_comm member same] at last
        simpa [insertAll, erase, same] using last

end

end TaggedMarkup.Fields
