import TaggedMarkup.Proofs.Fields
import TaggedMarkup.Proofs.Reading.Parsed
import TaggedMarkup.WrittenAttribute
import TaggedMarkup.Merge

/-! Compiled attributes pass assignments on one after another, and each leaves out what a later
one replaces. Altogether they pass on what merging the attributes gives: the last assignment of
a name is the merged one.
-/

namespace TaggedMarkup

/-- An assignment that a compiled attribute passes on, with the position of the attribute. -/
structure Emission where
  entry : Nat
  name : String
  value : Value

def Emission.field (emission : Emission) : String × Value :=
  (emission.name, emission.value)

namespace Attribute

/-- The fields that an attribute assigns, in order. -/
def assigned (values : List Value) : Attribute → List (String × Value)
  | .named name value _ => [(name, value.source.value values)]
  | .dynamicName slot _ =>
      match values[slot]?.bind dynamicName? with
      | some name => [(name, .bool true)]
      | none => []
  | .spread slot _ => (spreadFields? values slot).getD []

/-- Whether the attribute is a spread that assigns the name. -/
def spreads (values : List Value) (name : String) : Attribute → Bool
  | .spread slot _ => Node.spreadHas values name slot
  | _ => false

def assigns (values : List Value) (name : String) : Attribute → Bool
  | .named other _ _ => other == name
  | .dynamicName slot _ => values[slot]?.bind dynamicName? == some name
  | .spread slot _ => Node.spreadHas values name slot

/-- Whether the attribute is no spread and assigns the name. -/
def assignsAlone (values : List Value) (name : String) : Attribute → Bool
  | .spread .. => false
  | written => written.assigns values name

end Attribute

namespace Node

/-- What the compiled attribute at a position passes on. -/
def passed (node : Node) (values : List Value) (entry : Nat)
    : Attribute → List (String × Value)
  | .named name value _ =>
      if (node.lastSpread?.any fun last => entry < last) && node.isOverridden entry name values then
        []
      else
        [(name, value.source.value values)]
  | .dynamicName slot _ =>
      match values[slot]?.bind dynamicName? with
      | some name =>
          if node.isOverridden entry name values then [] else [(name, .bool true)]
      | none => []
  | .spread .. => node.spreadSurvivors entry values

/-- What the compiled attributes from a position on pass on to be written. The names that the
renderer reads itself are not written.
-/
def emissionsFrom (node : Node) (values : List Value) (entry : Nat)
    : List Attribute → List Emission
  | [] => []
  | written :: rest =>
      ((node.passed values entry written).filter fun field =>
          !WrittenAttribute.isContentOrIdentity field.1).map
        (fun field => ⟨entry, field.1, field.2⟩)
      ++ node.emissionsFrom values (entry + 1) rest

/-- What all compiled attributes of a node pass on to be written. -/
def emissions (node : Node) (values : List Value) : List Emission :=
  node.emissionsFrom values 0 node.attributes

-----------------------------------------------------------------------------------------
-- What follows an attribute
-----------------------------------------------------------------------------------------

variable {node : Node} {values : List Value} {entry : Nat} {name : String}

/-- A spread is noted with its place and with the names that follow it. -/
theorem mem_notes {attributes : List Attribute} {note : SpreadNote}
    : note ∈ Attribute.notes attributes
      ↔ ∃ location,
          attributes[note.entry]? = some (.spread note.slot location)
          ∧ note.before = (attributes.take note.entry).filterMap Attribute.name?
          ∧ note.after = (attributes.drop (note.entry + 1)).filterMap Attribute.name? := by
  simp only [Attribute.notes, List.mem_filterMap, Prod.exists, List.mem_zipIdx_iff_getElem?]
  constructor
  · rintro ⟨written, entry, isHere, isNote⟩
    cases written with
    | spread slot location =>
        obtain rfl := Option.some.inj isNote
        exact ⟨location, isHere, rfl, rfl⟩
    | named | dynamicName => cases isNote
  · rintro ⟨location, isHere, before, after⟩
    refine ⟨.spread note.slot location, note.entry, isHere, ?_⟩
    simp only [Attribute.note?, ← before, ← after]

/-- What follows a position stands at a later one. -/
theorem mem_drop_iff {attributes : List Attribute} {written : Attribute}
    : written ∈ attributes.drop (entry + 1)
      ↔ ∃ later, entry < later ∧ attributes[later]? = some written := by
  simp only [List.mem_iff_getElem?, List.getElem?_drop]
  constructor
  · rintro ⟨i, isHere⟩
    exact ⟨entry + 1 + i, by omega, isHere⟩
  · rintro ⟨later, isLater, isHere⟩
    exact ⟨later - (entry + 1), by rwa [Nat.add_sub_cancel' isLater]⟩

/-- A name is overridden at a position exactly when a later spread assigns it. -/
theorem isOverridden_eq (noted : node.spreads = Attribute.notes node.attributes) (entry : Nat)
    (name : String) (values : List Value)
    : node.isOverridden entry name values
      = (node.attributes.drop (entry + 1)).any (Attribute.spreads values name) := by
  rw [Bool.eq_iff_iff]
  simp only [isOverridden, noted, List.any_eq_true, List.mem_filter, decide_eq_true_eq]
  constructor
  · rintro ⟨note, ⟨member, later⟩, has⟩
    obtain ⟨location, isHere, -⟩ := mem_notes.mp member
    exact ⟨.spread note.slot location, mem_drop_iff.mpr ⟨note.entry, later, isHere⟩, has⟩
  · rintro ⟨written, member, has⟩
    obtain ⟨later, isLater, isHere⟩ := mem_drop_iff.mp member
    cases written with
    | spread slot location =>
        let note : SpreadNote :=
          {
            slot
            entry := later
            before := (node.attributes.take later).filterMap Attribute.name?
            after := (node.attributes.drop (later + 1)).filterMap Attribute.name?
          }
        have isNote : note ∈ Attribute.notes node.attributes :=
          mem_notes.mpr ⟨location, isHere, rfl, rfl⟩
        exact ⟨note, ⟨isNote, isLater⟩, has⟩
    | named | dynamicName => cases has

theorem notes_sorted (attributes : List Attribute)
    : (Attribute.notes attributes).Pairwise fun first second => first.entry < second.entry := by
  have places : attributes.zipIdx.Pairwise fun first second => first.2 < second.2 := by
    apply List.pairwise_map.mp
    rw [List.zipIdx_map_snd]
    exact List.pairwise_lt_range'
  refine List.pairwise_filterMap.mpr (places.imp ?_)
  intro first second before note isNote other isOther
  obtain ⟨written, entry⟩ := first
  obtain ⟨written', entry'⟩ := second
  cases written with
  | spread =>
      cases written' with
      | spread =>
          obtain rfl := Option.some.inj isNote
          obtain rfl := Option.some.inj isOther
          exact before
      | named | dynamicName => cases isOther
  | named | dynamicName => cases isNote

/-- A name that a later spread assigns stands before the last spread. -/
theorem lastSpread?_any (noted : node.spreads = Attribute.notes node.attributes)
    (overridden : node.isOverridden entry name values = true)
    : (node.lastSpread?.any fun last => decide (entry < last)) = true := by
  simp only [isOverridden, List.any_eq_true, List.mem_filter, decide_eq_true_eq] at overridden
  obtain ⟨note, ⟨member, later⟩, -⟩ := overridden
  have sorted := notes_sorted node.attributes
  rw [← noted] at sorted
  cases isLast : node.spreads.getLast? with
  | none =>
      rw [List.getLast?_eq_none_iff.mp isLast] at member
      cases member
  | some last =>
      obtain ⟨before, isAll⟩ := List.getLast?_eq_some_iff.mp isLast
      rw [isAll] at member sorted
      have notAfter : note.entry ≤ last.entry := by
        rcases List.mem_append.mp member with early | same
        · exact Nat.le_of_lt ((List.pairwise_append.mp sorted).2.2 note early last (by simp))
        · exact Nat.le_of_eq (congrArg SpreadNote.entry (List.mem_singleton.mp same))
      simp only [lastSpread?, isLast, Option.map_some, Option.any_some, decide_eq_true_eq]
      exact Nat.lt_of_lt_of_le later notAfter

/-- What is noted of the spread at a position. -/
theorem spreadAt?_eq (noted : node.spreads = Attribute.notes node.attributes) {slot : Nat}
    {location : Location} (isHere : node.attributes[entry]? = some (.spread slot location))
    : ∃ note,
        node.spreadAt? entry = some note
        ∧ note.slot = slot
        ∧ note.after = (node.attributes.drop (entry + 1)).filterMap Attribute.name? := by
  have found : (node.spreadAt? entry).isSome = true := by
    simp only [spreadAt?, noted, List.find?_isSome, beq_iff_eq]
    let note : SpreadNote :=
      {
        slot
        entry
        before := (node.attributes.take entry).filterMap Attribute.name?
        after := (node.attributes.drop (entry + 1)).filterMap Attribute.name?
      }
    exact ⟨note, mem_notes.mpr ⟨location, isHere, rfl, rfl⟩, rfl⟩
  obtain ⟨note, isFound⟩ := Option.isSome_iff_exists.mp found
  have isEntry : note.entry = entry := by
    simpa using List.find?_some isFound
  have member := List.mem_of_find?_eq_some isFound
  rw [noted] at member
  obtain ⟨location', isNoted, -, after⟩ := mem_notes.mp member
  rw [isEntry] at isNoted after
  have same := Option.some.inj (isHere.symm.trans isNoted)
  exact ⟨note, isFound, (Attribute.spread.inj same).1.symm, after⟩

/-- A name is assigned by some attribute when the template gives it or it is written
dynamically.
-/
theorem any_assigns (attributes : List Attribute) (name : String) (values : List Value)
    : attributes.any (Attribute.assigns values name)
      = ((attributes.filterMap Attribute.name?).contains name
        || attributes.any (writesDynamically values name)) := by
  induction attributes with
  | nil => rfl
  | cons written rest ih =>
      rw [List.any_cons, ih, List.any_cons]
      cases written with
      | named other value location =>
          rw [show Attribute.assigns values name (.named other value location) = (name == other)
            from Bool.beq_comm]
          simp only [writesDynamically, List.filterMap_cons, Attribute.name?, List.contains_cons,
            Bool.false_or, Bool.or_assoc]
      | spread slot location =>
          simp only [Attribute.assigns, writesDynamically, List.filterMap_cons, Attribute.name?,
            Bool.or_left_comm]
      | dynamicName slot location =>
          simp only [Attribute.assigns, writesDynamically, List.filterMap_cons, Attribute.name?,
            Bool.or_left_comm]

/-- The fields of a spread that are passed on are those that nothing after it assigns. -/
theorem spreadSurvivors_eq (noted : node.spreads = Attribute.notes node.attributes)
    {slot : Nat} {location : Location}
    (isHere : node.attributes[entry]? = some (.spread slot location))
    : node.spreadSurvivors entry values
      = ((spreadFields? values slot).getD []).filter fun field =>
          !(node.attributes.drop (entry + 1)).any (Attribute.assigns values field.1) := by
  obtain ⟨note, found, rfl, after⟩ := spreadAt?_eq noted isHere
  simp only [spreadSurvivors, found, after]
  cases spreadFields? values note.slot with
  | none => rfl
  | some fields =>
      simp only [Option.getD_some, any_assigns, Bool.not_or]

-----------------------------------------------------------------------------------------
-- What is passed on
-----------------------------------------------------------------------------------------

/-- Whether the renderer reads the name itself, so that it is not written. -/
abbrev excluded (name : String) : Bool :=
  WrittenAttribute.isContentOrIdentity name

/-- Whether something among later attributes replaces what an attribute assigns to a name: a
spread for an attribute of its own, and any attribute for a spread.
-/
def replaced (values : List Value) (written : Attribute) (later : List Attribute)
    (name : String)
    : Bool :=
  match written with
  | .spread .. => later.any (Attribute.assigns values name)
  | _ => later.any (Attribute.spreads values name)

/-- An attribute passes on what it assigns, apart from the names that something later replaces. -/
theorem passed_eq (noted : node.spreads = Attribute.notes node.attributes)
    {written : Attribute} (isHere : node.attributes[entry]? = some written)
    : node.passed values entry written
      = (written.assigned values).filter fun field =>
          !replaced values written (node.attributes.drop (entry + 1)) field.1 := by
  cases written with
  | named name value location =>
      simp only [passed, Attribute.assigned, replaced, ← isOverridden_eq noted]
      cases overridden : node.isOverridden entry name values with
      | true => simp [lastSpread?_any noted overridden, overridden]
      | false => simp [overridden]
  | dynamicName slot location =>
      simp only [passed, Attribute.assigned, replaced, ← isOverridden_eq noted]
      cases values[slot]?.bind dynamicName? with
      | none => rfl
      | some name => cases overridden : node.isOverridden entry name values <;> simp [overridden]
  | spread slot location => exact spreadSurvivors_eq noted isHere

/-- A spread that assigns a name is an attribute that assigns it. -/
theorem assigns_of_spreads {written : Attribute}
    (spreads : written.spreads values name = true)
    : written.assigns values name = true := by
  cases written with
  | spread => exact spreads
  | named | dynamicName => cases spreads

/-- A name that no later attribute assigns is not replaced. -/
theorem replaced_of_unassigned {later : List Attribute} (written : Attribute)
    (unassigned : later.any (Attribute.assigns values name) = false)
    : replaced values written later name = false := by
  have noSpread : later.any (Attribute.spreads values name) = false := by
    rw [List.any_eq_false] at unassigned ⊢
    intro other member spreads
    exact unassigned other member (assigns_of_spreads spreads)
  cases written <;> assumption

/-- A name that is not replaced is assigned by no later spread. -/
theorem unspread_of_kept {later : List Attribute} {written : Attribute}
    (kept : replaced values written later name = false)
    : ∀ other ∈ later, other.spreads values name = false := by
  intro other member
  cases spreads : other.spreads values name with
  | false => rfl
  | true =>
      have assigns := assigns_of_spreads spreads
      cases written with
      | spread => exact absurd assigns (List.any_eq_false.mp kept other member)
      | named | dynamicName => exact absurd spreads (List.any_eq_false.mp kept other member)

/-- An attribute assigns a name exactly when the name is among its fields. -/
theorem mem_assigned_iff {written : Attribute}
    : name ∈ (written.assigned values).map Prod.fst ↔ written.assigns values name = true := by
  cases written with
  | named other value location =>
      simp only [Attribute.assigned, Attribute.assigns, List.map_cons, List.map_nil,
        List.mem_singleton, beq_iff_eq]
      exact ⟨Eq.symm, Eq.symm⟩
  | dynamicName slot location =>
      simp only [Attribute.assigned, Attribute.assigns]
      cases values[slot]?.bind dynamicName? with
      | none => simp
      | some other =>
          simp only [List.map_cons, List.map_nil, List.mem_singleton, beq_iff_eq,
            Option.some.injEq]
          exact ⟨Eq.symm, Eq.symm⟩
  | spread slot location =>
      simp only [Attribute.assigned, Attribute.assigns, spreadHas]
      cases spreadFields? values slot with
      | none => simp
      | some fields => simp [Fields.contains]

-----------------------------------------------------------------------------------------
-- Merged properties
-----------------------------------------------------------------------------------------

/-- The sources of an attribute have the values that it assigns. -/
theorem assigned_eq (values : List Value) (written : Attribute)
    : (written.assignments values).map (fun field => (field.1, field.2.value values))
      = written.assigned values := by
  cases written with
  | named name value location => rfl
  | dynamicName slot location =>
      simp only [Attribute.assignments, Attribute.assigned]
      cases values[slot]?.bind dynamicName? <;> rfl
  | spread slot location =>
      simp only [Attribute.assignments, Attribute.assigned]
      cases found : spreadFields? values slot with
      | none => rfl
      | some fields =>
          have isObject : values[slot]? = some (.object fields) := by
            obtain ⟨value, isHere, isFields⟩ := Option.bind_eq_some_iff.mp found
            cases value <;> simp_all [Value.fields?]
          simp only [List.map_map, Option.getD_some]
          conv => rhs; rw [← List.zipIdx_map_fst 0 fields]
          apply List.map_congr_left
          intro pair member
          have isField := List.mem_zipIdx_iff_getElem?.mp member
          simp only [Function.comp_apply, Source.value, isObject, Source.fieldAt, isField,
            Option.map_some, Option.getD_some]

/-- The sources of several attributes have the values that they assign. -/
theorem flatMap_assigned (attributes : List Attribute) (values : List Value)
    : (attributes.flatMap (Attribute.assignments values)).map
        (fun field => (field.1, field.2.value values))
      = attributes.flatMap (Attribute.assigned values) := by
  rw [List.map_flatMap]
  exact List.flatMap_congr fun written _ => assigned_eq values written

/-- A merged property is the last one assigned to its name. -/
theorem get?_props (node : Node) (values : List Value) (name : String)
    : Fields.get? (node.props values) name
      = Fields.get? (node.attributes.flatMap (Attribute.assigned values)).reverse name := by
  rw [← flatMap_assigned, ← List.map_reverse]
  simp only [props, sources, Fields.ofEntries]
  rw [Fields.get?_map _ (Source.value values), Fields.get?_map _ (Source.value values),
    Fields.get?_insertAll]
  simp [Fields.get?]

-----------------------------------------------------------------------------------------
-- The last assignment
-----------------------------------------------------------------------------------------

/-- The fields of what is passed on from a position on. -/
theorem emissionsFrom_fields (node : Node) (values : List Value) (entry : Nat)
    (written : Attribute) (rest : List Attribute)
    : (node.emissionsFrom values entry (written :: rest)).map Emission.field
      = ((node.passed values entry written).filter fun field => !excluded field.1)
        ++ (node.emissionsFrom values (entry + 1) rest).map Emission.field := by
  simp only [emissionsFrom, List.map_append, List.map_map]
  apply congrArg (· ++ _)
  conv => rhs; rw [← List.map_id (List.filter _ _)]
  rfl

/-- What follows a position begins with the attribute there. -/
theorem drop_cons {attributes rest : List Attribute} {written : Attribute}
    (isRest : attributes.drop entry = written :: rest)
    : attributes[entry]? = some written ∧ attributes.drop (entry + 1) = rest := by
  constructor
  · have := congrArg (fun list : List Attribute => list[0]?) isRest
    simpa using this
  · rw [← List.tail_drop, isRest]
    rfl

/-- The last emission of a name is the last assignment of it, by induction on the attributes
that follow.
-/
theorem last_emission (noted : node.spreads = Attribute.notes node.attributes)
    (written : excluded name = false) {rest : List Attribute}
    (isRest : node.attributes.drop entry = rest)
    : Fields.get? ((node.emissionsFrom values entry rest).map Emission.field).reverse name
      = Fields.get? (rest.flatMap (Attribute.assigned values)).reverse name := by
  induction rest generalizing entry with
  | nil => rfl
  | cons first rest ih =>
      obtain ⟨isHere, isLater⟩ := drop_cons isRest
      rw [emissionsFrom_fields, List.flatMap_cons, List.reverse_append, List.reverse_append,
        Fields.get?_append, Fields.get?_append, ih isLater]
      cases later : Fields.get? (rest.flatMap (Attribute.assigned values)).reverse name with
      | some value => rfl
      | none =>
          have unassigned : rest.any (Attribute.assigns values name) = false := by
            rw [List.any_eq_false]
            intro other member assigns
            obtain ⟨field, isField, isName⟩ := List.mem_map.mp (mem_assigned_iff.mpr assigns)
            have found := Fields.get?_isSome_of_mem (List.mem_reverse.mpr
              (List.mem_flatMap.mpr ⟨other, member, isField⟩))
            rw [isName, later] at found
            cases found
          have kept := replaced_of_unassigned first unassigned
          rw [passed_eq noted isHere, isLater, ← List.filter_reverse, ← List.filter_reverse,
            Fields.get?_filter _ (fun name => !excluded name),
            Fields.get?_filter _ (fun name => !replaced values first rest name), written, kept]
          rfl

/-- The last emission of a name has the value that reading the name from the end gives. -/
theorem find?_emission (emissions : List Emission) (name : String)
    : (emissions.find? fun emission => emission.name == name).map Emission.value
      = Fields.get? (emissions.map Emission.field) name := by
  induction emissions with
  | nil => rfl
  | cons first rest ih =>
      by_cases same : first.name = name
      · simp [Fields.get?, Emission.field, same]
      · simpa [Fields.get?, Emission.field, same] using ih

-----------------------------------------------------------------------------------------
-- Where emissions come from
-----------------------------------------------------------------------------------------

/-- An emission is a field that the attribute at its position assigns, that nothing later
replaces and that is written, by induction on the attributes that follow.
-/
theorem emission_origin (noted : node.spreads = Attribute.notes node.attributes)
    {rest : List Attribute} (isRest : node.attributes.drop entry = rest) {emission : Emission}
    (member : emission ∈ node.emissionsFrom values entry rest)
    : ∃ written,
        node.attributes[emission.entry]? = some written
        ∧ emission.field ∈ written.assigned values
        ∧ replaced values written (node.attributes.drop (emission.entry + 1)) emission.name
          = false
        ∧ excluded emission.name = false := by
  induction rest generalizing entry with
  | nil => cases member
  | cons first rest ih =>
      obtain ⟨isHere, isLater⟩ := drop_cons isRest
      rcases List.mem_append.mp member with here | later
      · obtain ⟨field, isPassed, rfl⟩ := List.mem_map.mp here
        rw [passed_eq noted isHere] at isPassed
        obtain ⟨isKept, isWritten⟩ := List.mem_filter.mp isPassed
        obtain ⟨isAssigned, kept⟩ := List.mem_filter.mp isKept
        exact ⟨first, isHere, isAssigned, by simpa using kept, by simpa using isWritten⟩
      · exact ih isLater later

-----------------------------------------------------------------------------------------
-- How often a name is passed on
-----------------------------------------------------------------------------------------

/-- No object that is spread has a name twice. -/
def SpreadOnce (values : List Value) : Prop :=
  ∀ slot fields, spreadFields? values slot = some fields → (Fields.names fields).Nodup

/-- An attribute assigns a name once or not at all. -/
theorem count_assigned (once : SpreadOnce values) (written : Attribute) (name : String)
    : (written.assigned values).countP (fun field => field.1 == name)
      = if written.assigns values name then 1 else 0 := by
  have counted : (written.assigned values).countP (fun field => field.1 == name)
      = ((written.assigned values).map Prod.fst).count name := by
    rw [List.count, List.countP_map]
    rfl
  have distinct : ((written.assigned values).map Prod.fst).Nodup := by
    cases written with
    | named => simp [Attribute.assigned]
    | dynamicName slot =>
        simp only [Attribute.assigned]
        cases values[slot]?.bind dynamicName? with
        | none => exact List.nodup_nil
        | some => simp
    | spread slot =>
        simp only [Attribute.assigned]
        cases found : spreadFields? values slot with
        | none => exact List.nodup_nil
        | some fields => exact once slot fields found
  rw [counted, List.Nodup.count distinct]
  simp only [mem_assigned_iff]

/-- An attribute passes a name on once if it assigns it and nothing later replaces it, and not
at all otherwise.
-/
theorem count_kept (once : SpreadOnce values) (written : Attribute) (later : List Attribute)
    (isWritten : excluded name = false)
    : (((written.assigned values).filter fun field =>
          !replaced values written later field.1).filter fun field =>
        !excluded field.1).countP (fun field => field.1 == name)
      = if written.assigns values name && !replaced values written later name then 1 else 0 := by
  rw [List.countP_filter, List.countP_filter]
  cases kept : replaced values written later name with
  | true =>
      rw [List.countP_eq_zero.mpr]
      · simp
      · intro field _ isName
        simp only [Bool.and_eq_true, beq_iff_eq, Bool.not_eq_true'] at isName
        obtain ⟨⟨rfl, -⟩, unreplaced⟩ := isName
        cases kept.symm.trans unreplaced
  | false =>
      rw [List.countP_congr (q := fun field => field.1 == name), count_assigned once]
      · simp
      · intro field _
        simp only [Bool.and_eq_true, beq_iff_eq, Bool.not_eq_true']
        refine ⟨fun both => both.1.1, ?_⟩
        rintro rfl
        exact ⟨⟨rfl, isWritten⟩, kept⟩

/-- A name that one of some attributes assigns, of which none but spreads may, is assigned by a
spread among them.
-/
theorem any_spreads {later : List Attribute}
    (assigned : later.any (Attribute.assigns values name) = true)
    (alone : later.countP (Attribute.assignsAlone values name) = 0)
    : later.any (Attribute.spreads values name) = true := by
  obtain ⟨written, member, assigns⟩ := List.any_eq_true.mp assigned
  have notAlone := List.countP_eq_zero.mp alone written member
  refine List.any_eq_true.mpr ⟨written, member, ?_⟩
  cases written with
  | spread => exact assigns
  | named | dynamicName => exact absurd assigns notAlone

/-- A name that is assigned is passed on once unless two attributes apart from spreads assign
it, by induction on the attributes that follow.
-/
theorem count_emissions (noted : node.spreads = Attribute.notes node.attributes)
    (once : SpreadOnce values) (isWritten : excluded name = false) {rest : List Attribute}
    (isRest : node.attributes.drop entry = rest)
    (alone : rest.countP (Attribute.assignsAlone values name) < 2)
    : (node.emissionsFrom values entry rest).countP (fun emission => emission.name == name)
      = if rest.any (Attribute.assigns values name) then 1 else 0 := by
  induction rest generalizing entry with
  | nil => rfl
  | cons first rest ih =>
      obtain ⟨isHere, isLater⟩ := drop_cons isRest
      rw [List.countP_cons] at alone
      have here := count_kept once first rest isWritten
      simp only [emissionsFrom, List.countP_append, List.countP_map, List.any_cons]
      rw [ih isLater (by omega), passed_eq noted isHere, isLater]
      apply (congrArg (· + _) here).trans
      rcases Bool.eq_false_or_eq_true (rest.any (Attribute.assigns values name)) with later | later
      · -- What follows passes the name on, so the first attribute must not.
        have hidden : (first.assigns values name && !replaced values first rest name) = false := by
          cases first with
          | spread => simp [replaced, later]
          | named | dynamicName =>
              rw [Bool.and_eq_false_imp]
              intro assigns
              simp only [Attribute.assignsAlone, assigns, if_true] at alone
              simpa [replaced] using any_spreads later (by omega)
        simp [hidden, later]
      · simp [replaced_of_unassigned first later, later]

-----------------------------------------------------------------------------------------
-- The last writing of a name wins
-----------------------------------------------------------------------------------------

/-- What attributes pass on is what merging them gives. Only the count of a name relies on
objects that have no name twice.
-/
structure LastWriteWins (node : Node) (values : List Value) : Prop where
  occurs
    : ∀ name,
        excluded name = false
        → ((∃ emission ∈ node.emissions values, emission.name = name)
          ↔ Fields.contains (node.props values) name = true)
  last
    : ∀ name,
        excluded name = false
        → ((node.emissions values).reverse.find? fun emission => emission.name == name).map
              Emission.value
          = Fields.get? (node.props values) name
  origin
    : ∀ emission ∈ node.emissions values,
        ∃ written,
          node.attributes[emission.entry]? = some written
          ∧ emission.field ∈ written.assigned values
          ∧ ∀ other ∈ node.attributes.drop (emission.entry + 1),
              other.spreads values emission.name = false
  once
    : SpreadOnce values
      → ∀ name,
          excluded name = false
          → Fields.contains (node.props values) name = true
          → node.attributes.countP (Attribute.assignsAlone values name) < 2
          → (node.emissions values).countP (fun emission => emission.name == name) = 1
  never : ∀ emission ∈ node.emissions values, excluded emission.name = false

/-- The last writing of a name wins in every node whose spreads have been noted. -/
theorem lastWriteWins (noted : node.spreads = Attribute.notes node.attributes)
    (values : List Value)
    : LastWriteWins node values := by
  have whole : node.attributes.drop 0 = node.attributes := rfl
  have last (name : String) (written : excluded name = false)
      : ((node.emissions values).reverse.find? fun emission => emission.name == name).map
            Emission.value
          = Fields.get? (node.props values) name := by
    rw [find?_emission, List.map_reverse, get?_props]
    exact last_emission noted written whole
  have occurs (name : String) (written : excluded name = false)
      : (∃ emission ∈ node.emissions values, emission.name = name)
        ↔ Fields.contains (node.props values) name = true := by
    rw [Fields.contains_iff, ← last name written, Option.isSome_map, List.find?_isSome]
    simp only [List.mem_reverse, beq_iff_eq]
  have origin (emission : Emission) (member : emission ∈ node.emissions values) :=
    emission_origin noted whole member
  refine ⟨occurs, last, ?_, ?_, ?_⟩
  · intro emission member
    obtain ⟨written, isHere, isAssigned, kept, -⟩ := origin emission member
    exact ⟨written, isHere, isAssigned, unspread_of_kept kept⟩
  · intro once name written given alone
    obtain ⟨emission, member, rfl⟩ := (occurs name written).mpr given
    obtain ⟨written', isHere, isAssigned, -⟩ := origin emission member
    have assigns := mem_assigned_iff.mp (List.mem_map_of_mem isAssigned)
    have assigned : node.attributes.any (Attribute.assigns values emission.name) = true :=
      List.any_eq_true.mpr ⟨written', List.mem_of_getElem? isHere, assigns⟩
    rw [emissions, count_emissions noted once written whole alone, assigned, if_pos rfl]
  · intro emission member
    obtain ⟨-, -, -, -, written⟩ := origin emission member
    exact written

end Node

end TaggedMarkup
