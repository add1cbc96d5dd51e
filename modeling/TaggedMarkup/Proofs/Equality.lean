import Mathlib.Data.List.Basic
import Mathlib.Data.List.Forall2
import Mathlib.Data.List.Perm.Subperm
import Mathlib.Data.Option.Basic
import TaggedMarkup.Value.Equality
import TaggedMarkup.Proofs.Likeness.Values

/-! Equality of values is symmetric and transitive, and only a NaN keeps a value from being equal
to itself. Two things are compared by identity before or instead of what they hold, elements and
the insides of memos, which is sound because a place in memory holds one thing.
-/

namespace TaggedMarkup

-----------------------------------------------------------------------------------------
-- Numbers and fields
-----------------------------------------------------------------------------------------

namespace Binary64

variable {x y z : Binary64}

theorem equal_comm (x y : Binary64) : x.equal y = y.equal x := by
  simp only [equal, Bool.and_comm (!x.isNaN), Bool.and_comm x.isZero, Bool.beq_comm (a := x)]

theorem equal_trans (first : x.equal y = true) (second : y.equal z = true) : x.equal z = true := by
  simp only [equal, Bool.and_eq_true, Bool.or_eq_true, beq_iff_eq] at first second ⊢
  grind

theorem equal_self (number : x.isNaN = false) : x.equal x = true := by
  simp [equal, number]

end Binary64

namespace Fields

variable {α : Type} {related : α → α → Prop} {fields middle others : Fields α}

theorem mem_names_iff {name : String}
    : name ∈ names fields ↔ ∃ value, get? fields name = some value := by
  rw [← Option.isSome_iff_exists, ← not_iff_not, Option.not_isSome_iff_eq_none,
    get?_eq_none_iff, names, List.mem_map]
  push Not
  rfl

/-- The same names in any order, and related values of each. -/
structure Agree (related : α → α → Prop) (fields others : Fields α) : Prop where
  names : ∀ name, name ∈ names fields ↔ name ∈ Fields.names others
  values
    : ∀ name value other,
        get? fields name = some value → get? others name = some other → related value other

namespace Agree

theorem flip (agree : Agree related fields others)
    (turned
      : ∀ name value other,
          get? fields name = some value
          → get? others name = some other
          → related value other
          → related other value)
    : Agree related others fields where
  names name := (agree.names name).symm
  values name value other found isOther :=
    turned name other value isOther found (agree.values name other value isOther found)

theorem trans (first : Agree related fields middle) (second : Agree related middle others)
    (joined
      : ∀ name value between other,
          get? fields name = some value
          → get? middle name = some between
          → get? others name = some other
          → related value between
          → related between other
          → related value other)
    : Agree related fields others where
  names name := (first.names name).trans (second.names name)
  values name value other found isOther := by
    obtain ⟨between, isBetween⟩ :=
      mem_names_iff.mp ((first.names name).mp (mem_names_iff.mpr ⟨value, found⟩))
    exact joined name value between other found isBetween isOther
      (first.values name value between found isBetween)
      (second.values name between other isBetween isOther)

end Agree

end Fields

namespace Value

variable {fields others : Props}

/-- Two values that are found equal. -/
abbrev Equal (value other : Value) : Prop :=
  value.equal other = true

theorem fieldsWithin_iff
    : fieldsWithin fields others = true
      ↔ ∀ field ∈ fields,
          ∃ found, Fields.get? others field.1 = some found ∧ Equal field.2 found := by
  induction fields with
  | nil => simp [fieldsWithin]
  | cons field rest ih =>
      obtain ⟨name, value⟩ := field
      simp only [fieldsWithin, Bool.and_eq_true, ih, List.forall_mem_cons]
      refine and_congr_left fun _ => ?_
      cases Fields.get? others name <;> simp

/-- As many fields, each of which is among the others, are the others: as the names of either are
different, none of the others is left over.
-/
theorem agree_iff (distinct : (Fields.names fields).Nodup) (distinct' : (Fields.names others).Nodup)
    : (fields.length == others.length && fieldsWithin fields others) = true
      ↔ Fields.Agree Equal fields others := by
  rw [Bool.and_eq_true, beq_iff_eq, fieldsWithin_iff]
  constructor
  · rintro ⟨sizes, within⟩
    have among : Fields.names fields ⊆ Fields.names others := by
      intro name member
      obtain ⟨field, isField, rfl⟩ := List.mem_map.mp member
      obtain ⟨found, isFound, -⟩ := within field isField
      exact Fields.mem_names_iff.mpr ⟨found, isFound⟩
    have order : (Fields.names fields).Perm (Fields.names others) := by
      refine (List.subperm_of_subset distinct among).perm_of_length_le ?_
      simp [Fields.names, sizes]
    refine ⟨fun name => order.mem_iff, fun name value other here there => ?_⟩
    obtain ⟨found, isFound, same⟩ := within _ (Fields.mem_of_get? here)
    obtain rfl := Option.some.inj (there.symm.trans isFound)
    exact same
  · intro agree
    have order := (List.perm_ext_iff_of_nodup distinct distinct').mpr agree.names
    refine ⟨by simpa [Fields.names] using order.length_eq, fun field member => ?_⟩
    have here := Fields.get?_of_mem distinct member
    obtain ⟨found, there⟩ :=
      Fields.mem_names_iff.mp ((agree.names field.1).mp (Fields.mem_names_iff.mpr ⟨_, here⟩))
    exact ⟨found, there, agree.values field.1 field.2 found here there⟩

-----------------------------------------------------------------------------------------
-- What equality compares
-----------------------------------------------------------------------------------------

/-- What stands at each place: an element by its serial number and its part. -/
abbrev Memory := Nat → Option Nat → Element

/-- A value with all that is in it stands in a memory: no name is given twice, and an element is
what stands at its place.
-/
inductive StandsIn (memory : Memory) : Value → Prop
  | undefined : StandsIn memory .undefined
  | null : StandsIn memory .null
  | bool (value : Bool) : StandsIn memory (.bool value)
  | number (value : Binary64) : StandsIn memory (.number value)
  | string (value : String) : StandsIn memory (.string value)
  | symbol (description : String) : StandsIn memory (.symbol description)
  | array {items : List Value} (inside : ∀ item ∈ items, StandsIn memory item)
    : StandsIn memory (.array items)
  | object {fields : Props} (distinct : (Fields.names fields).Nodup)
    (inside : ∀ field ∈ fields, StandsIn memory field.2)
    : StandsIn memory (.object fields)
  | element {element : Element} (place : memory element.serial element.part = element)
    (distinct : (Fields.names element.props).Nodup)
    (props : ∀ field ∈ element.props, StandsIn memory field.2)
    (reference : ∀ value, element.reference = some value → StandsIn memory value)
    : StandsIn memory (.element element)
  | markup (markup : Markup) : StandsIn memory (.markup markup)
  | function (closure : Closure Value) : StandsIn memory (.function closure)

/-- The same place in memory. -/
def SamePlace (element other : Element) : Prop :=
  element.serial = other.serial ∧ element.part = other.part

/-- Elements that hold equal things. -/
structure Alike (element other : Element) : Prop where
  kind : element.kind = other.kind
  key : element.key = other.key
  reference : Option.Rel Equal element.reference other.reference
  props : Fields.Agree Equal element.props other.props

variable {memory : Memory} {value other : Value}

theorem equal_array_iff {items : List Value}
    : Equal (.array items) value
      ↔ ∃ others, value = .array others ∧ List.Forall₂ Equal items others := by
  have same (others : List Value)
      : equalItems items others = true ↔ List.Forall₂ Equal items others := by
    induction items generalizing others with
    | nil => cases others <;> simp [equalItems]
    | cons item rest ih => cases others <;> simp [equalItems, ih]
  cases value <;> simp [Equal, equal, same]

theorem equal_object_iff (distinct : (Fields.names fields).Nodup) (stands : StandsIn memory value)
    : Equal (.object fields) value
      ↔ ∃ others, value = .object others ∧ Fields.Agree Equal fields others := by
  cases stands with
  | object distinct' => simp [Equal, equal, ← agree_iff distinct distinct']
  | _ => simp [Equal, equal]

theorem equalReference_iff {first second : Option Value}
    : equalReference first second = true ↔ Option.Rel Equal first second := by
  cases first <;> cases second <;> simp [equalReference]

theorem equal_element_iff {element : Element} (distinct : (Fields.names element.props).Nodup)
    (stands : StandsIn memory value)
    : Equal (.element element) value
      ↔ ∃ other, value = .element other ∧ (SamePlace element other ∨ Alike element other) := by
  obtain ⟨serial, part, kind, key, reference, props⟩ := element
  cases stands with
  | element place distinct' =>
      have parts := agree_iff distinct distinct'
      simp only [Bool.and_eq_true, beq_iff_eq] at parts
      simp only [Equal, equal, Bool.or_eq_true, Bool.and_eq_true, beq_iff_eq, Value.element.injEq,
        exists_eq_left', SamePlace, equalReference_iff, and_assoc, parts]
      refine or_congr_right ⟨?_, ?_⟩
      · rintro ⟨kind, key, reference, props⟩
        exact ⟨kind, key, reference, props⟩
      · rintro ⟨kind, key, reference, props⟩
        exact ⟨kind, key, reference, props⟩
  | _ => simp [Equal, equal]

-----------------------------------------------------------------------------------------
-- Symmetry and transitivity
-----------------------------------------------------------------------------------------

/-- It is enough to relate the members of two lists. -/
theorem forall₂_of_mem {items others : List Value} {related wanted : Value → Value → Prop}
    (each : List.Forall₂ related items others)
    (implies : ∀ item ∈ items, ∀ other ∈ others, related item other → wanted item other)
    : List.Forall₂ wanted items others := by
  refine List.forall₂_iff_zip.mpr ⟨each.length_eq, fun both => ?_⟩
  exact implies _ (List.of_mem_zip both).1 _ (List.of_mem_zip both).2 (List.forall₂_zip each both)

theorem rel_flip {first second : Option Value} (alike : Option.Rel Equal first second)
    (turned
      : ∀ value other,
          first = some value → second = some other → Equal value other → Equal other value)
    : Option.Rel Equal second first := by
  cases alike with
  | none => exact .none
  | some same => exact .some (turned _ _ rfl rfl same)

theorem rel_trans {first between second : Option Value}
    (alike : Option.Rel Equal first between) (alike' : Option.Rel Equal between second)
    (joined
      : ∀ value middle other,
          first = some value
          → between = some middle
          → second = some other
          → Equal value middle
          → Equal middle other
          → Equal value other)
    : Option.Rel Equal first second := by
  cases alike with
  | none => exact alike'
  | some same =>
      cases alike' with
      | some same' => exact .some (joined _ _ _ rfl rfl rfl same same')

/-- By induction on the first value. Nothing is needed of the places of elements. -/
theorem Equal.symm (stands : StandsIn memory value) (stands' : StandsIn memory other)
    (same : Equal value other)
    : Equal other value := by
  induction stands generalizing other with
  | array inside ih =>
      obtain ⟨others, rfl, each⟩ := equal_array_iff.mp same
      cases stands' with
      | array inside' =>
          refine equal_array_iff.mpr ⟨_, rfl, List.Forall₂.flip (forall₂_of_mem each ?_)⟩
          exact fun item isItem other isOther => ih item isItem (inside' other isOther)
  | object distinct inside ih =>
      obtain ⟨others, rfl, agree⟩ := (equal_object_iff distinct stands').mp same
      cases stands' with
      | object distinct' inside' =>
          refine (equal_object_iff distinct' (.object distinct inside)).mpr
            ⟨_, rfl, agree.flip fun name value other found isOther => ?_⟩
          exact ih _ (Fields.mem_of_get? found) (inside' _ (Fields.mem_of_get? isOther))
  | element place distinct props reference ih ih' =>
      obtain ⟨element, rfl, alike⟩ := (equal_element_iff distinct stands').mp same
      cases stands' with
      | element place' distinct' props' reference' =>
          refine (equal_element_iff distinct' (.element place distinct props reference)).mpr
            ⟨_, rfl, alike.imp (fun places => ⟨places.1.symm, places.2.symm⟩) fun alike => ?_⟩
          refine ⟨alike.kind.symm, alike.key.symm, ?_,
            alike.props.flip fun name value other found isOther => ?_⟩
          · exact rel_flip alike.reference fun value other isValue isOther =>
              ih' value isValue (reference' other isOther)
          · exact ih _ (Fields.mem_of_get? found) (props' _ (Fields.mem_of_get? isOther))
  | _ => cases other <;> simp_all [Equal, equal, Binary64.equal_comm]

/-- By induction on the first value. Where two elements are compared by their places, they are one
element.
-/
theorem Equal.trans {between : Value} (stands : StandsIn memory value)
    (stands' : StandsIn memory between) (stands'' : StandsIn memory other)
    (same : Equal value between) (same' : Equal between other)
    : Equal value other := by
  induction stands generalizing between other with
  | array inside ih =>
      obtain ⟨middle, rfl, each⟩ := equal_array_iff.mp same
      obtain ⟨others, rfl, each'⟩ := equal_array_iff.mp same'
      cases stands' with
      | array inside' =>
          cases stands'' with
          | array inside'' =>
              refine equal_array_iff.mpr ⟨_, rfl, List.forall₂_iff_get.mpr ?_⟩
              obtain ⟨size, each⟩ := List.forall₂_iff_get.mp each
              obtain ⟨size', each'⟩ := List.forall₂_iff_get.mp each'
              refine ⟨size.trans size', fun index here there => ?_⟩
              exact ih _ (List.get_mem ..) (inside' _ (List.get_mem ..))
                (inside'' _ (List.get_mem ..)) (each index here (size ▸ here))
                (each' index (size ▸ here) there)
  | object distinct inside ih =>
      obtain ⟨middle, rfl, agree⟩ := (equal_object_iff distinct stands').mp same
      cases stands' with
      | object distinct' inside' =>
          obtain ⟨others, rfl, agree'⟩ := (equal_object_iff distinct' stands'').mp same'
          refine (equal_object_iff distinct stands'').mpr ⟨_, rfl, agree.trans agree' ?_⟩
          cases stands'' with
          | object distinct'' inside'' =>
              intro name value between other found isBetween isOther
              exact ih _ (Fields.mem_of_get? found) (inside' _ (Fields.mem_of_get? isBetween))
                (inside'' _ (Fields.mem_of_get? isOther))
  | element place distinct props reference ih ih' =>
      obtain ⟨middle, rfl, alike⟩ := (equal_element_iff distinct stands').mp same
      cases stands' with
      | element place' distinct' props' reference' =>
          rcases alike with ⟨sameSerial, samePart⟩ | alike
          · rw [sameSerial, samePart, place'] at place
            exact place ▸ same'
          obtain ⟨element, rfl, alike'⟩ := (equal_element_iff distinct' stands'').mp same'
          cases stands'' with
          | element place'' distinct'' props'' reference'' =>
              rcases alike' with ⟨sameSerial, samePart⟩ | alike'
              · rw [sameSerial, samePart, place''] at place'
                exact place' ▸ same
              refine (equal_element_iff distinct
                (.element place'' distinct'' props'' reference'')).mpr ⟨_, rfl, .inr ?_⟩
              refine ⟨alike.kind.trans alike'.kind, alike.key.trans alike'.key,
                rel_trans alike.reference alike'.reference ?_, alike.props.trans alike'.props ?_⟩
              · intro value between other isValue isBetween isOther
                exact ih' value isValue (reference' between isBetween) (reference'' other isOther)
              · intro name value between other found isBetween isOther
                exact ih _ (Fields.mem_of_get? found) (props' _ (Fields.mem_of_get? isBetween))
                  (props'' _ (Fields.mem_of_get? isOther))
  | number value =>
      cases between with
      | number =>
          cases other with
          | number => exact Binary64.equal_trans same same'
          | _ => cases same'
      | _ => cases same
  | _ =>
      cases between <;> simp only [Equal, equal] at same <;> cases other <;>
        simp_all [Equal, equal]

-----------------------------------------------------------------------------------------
-- Reflexivity and order
-----------------------------------------------------------------------------------------

/-- No number that is compared is a NaN. What a bound template or a function holds is never
compared.
-/
inductive NoNaN : Value → Prop
  | undefined : NoNaN .undefined
  | null : NoNaN .null
  | bool (value : Bool) : NoNaN (.bool value)
  | number {value : Binary64} (isNumber : value.isNaN = false) : NoNaN (.number value)
  | string (value : String) : NoNaN (.string value)
  | symbol (description : String) : NoNaN (.symbol description)
  | array {items : List Value} (inside : ∀ item ∈ items, NoNaN item) : NoNaN (.array items)
  | object {fields : Props} (inside : ∀ field ∈ fields, NoNaN field.2) : NoNaN (.object fields)
  | element {element : Element} (props : ∀ field ∈ element.props, NoNaN field.2)
    (reference : ∀ value, element.reference = some value → NoNaN value)
    : NoNaN (.element element)
  | markup (markup : Markup) : NoNaN (.markup markup)
  | function (closure : Closure Value) : NoNaN (.function closure)

/-- The fields of objects and the properties of elements in another order, at any depth. An element
with its properties in another order is another element, at a place of its own.
-/
inductive Reorders : Value → Value → Prop
  | same (value : Value) : Reorders value value
  | array {items others : List Value} (inside : List.Forall₂ Reorders items others)
    : Reorders (.array items) (.array others)
  | object {fields middle others : List (String × Value)}
    (inside : List.Forall₂ (Field.Like Reorders) fields middle) (order : middle.Perm others)
    : Reorders (.object fields) (.object others)
  | element {serial serial' : Nat} {part part' : Option Nat} {kind : ElementKind}
    {key : Option String} {reference reference' : Option Value}
    {props middle props' : List (String × Value)}
    (references : Option.Rel Reorders reference reference')
    (inside : List.Forall₂ (Field.Like Reorders) props middle) (order : middle.Perm props')
    : Reorders (.element ⟨serial, part, kind, key, reference, props⟩)
        (.element ⟨serial', part', kind, key, reference', props'⟩)

/-- An element is equal to itself whatever it holds, the other values by induction. -/
theorem Equal.refl (stands : StandsIn memory value) (noNaN : NoNaN value) : Equal value value := by
  induction noNaN with
  | number isNumber => exact Binary64.equal_self isNumber
  | array noNaN ih =>
      cases stands with
      | array inside =>
          refine equal_array_iff.mpr ⟨_, rfl, List.forall₂_same.mpr fun item isItem => ?_⟩
          exact ih item isItem (inside item isItem)
  | object noNaN ih =>
      cases stands with
      | object distinct inside =>
          refine (equal_object_iff distinct (.object distinct inside)).mpr ⟨_, rfl, ?_⟩
          refine ⟨fun name => Iff.rfl, fun name value other found isOther => ?_⟩
          obtain rfl := Option.some.inj (found.symm.trans isOther)
          have member := Fields.mem_of_get? found
          exact ih _ member (inside _ member)
  | element noNaN noNaN' =>
      cases stands with
      | element place distinct props reference =>
          exact (equal_element_iff distinct (.element place distinct props reference)).mpr
            ⟨_, rfl, .inl ⟨rfl, rfl⟩⟩
  | _ => simp [Equal, equal]

/-- Fields whose values are changed to equal ones and which are then reordered agree. -/
theorem agree_of_reorders {middle : Props} (distinct : (Fields.names others).Nodup)
    (inside : List.Forall₂ (Field.Like Reorders) fields middle) (order : middle.Perm others)
    (equals
      : ∀ name value other,
          (name, value) ∈ fields → (name, other) ∈ others → Reorders value other
          → Equal value other)
    : Fields.Agree Equal fields others := by
  have alike : Fields.Like Reorders fields middle := inside
  have sameNames := order.map Prod.fst
  refine ⟨fun name => ?_, fun name value other found isOther => ?_⟩
  · rw [alike.names]
    exact sameNames.mem_iff
  · have reorders := alike.get? name
    rw [Fields.get?_perm (sameNames.nodup_iff.mpr distinct) order, found, isOther] at reorders
    cases reorders with
    | some reorders =>
        exact equals name value other (Fields.mem_of_get? found) (Fields.mem_of_get? isOther)
          reorders

theorem Equal.of_reorders (noNaN : NoNaN value) (stands : StandsIn memory value)
    (stands' : StandsIn memory other) (reorders : Reorders value other)
    : Equal value other := by
  induction noNaN generalizing other with
  | array noNaN ih =>
      cases reorders with
      | same => exact .refl stands (.array noNaN)
      | array each =>
          cases stands with
          | array inside =>
              cases stands' with
              | array inside' =>
                  refine equal_array_iff.mpr ⟨_, rfl, forall₂_of_mem each ?_⟩
                  exact fun item isItem other isOther =>
                    ih item isItem (inside item isItem) (inside' other isOther)
  | object noNaN ih =>
      cases reorders with
      | same => exact .refl stands (.object noNaN)
      | object each order =>
          cases stands with
          | object distinct inside =>
              refine (equal_object_iff distinct stands').mpr ⟨_, rfl, ?_⟩
              cases stands' with
              | object distinct' inside' =>
                  refine agree_of_reorders distinct' each order ?_
                  exact fun name value other found isOther =>
                    ih _ found (inside _ found) (inside' _ isOther)
  | element noNaN noNaN' ih ih' =>
      cases reorders with
      | same => exact .refl stands (.element noNaN noNaN')
      | element references each order =>
          cases stands with
          | element place distinct props reference =>
              refine (equal_element_iff distinct stands').mpr ⟨_, rfl, .inr ?_⟩
              cases stands' with
              | element place' distinct' props' reference' =>
                  refine ⟨rfl, rfl, ?_, agree_of_reorders distinct' each order ?_⟩
                  · cases references with
                    | none => exact .none
                    | some reorders =>
                        exact .some
                          (ih' _ rfl (reference _ rfl) (reference' _ rfl) reorders)
                  · exact fun name value other found isOther =>
                      ih _ found (props _ found) (props' _ isOther)
  | _ =>
      cases reorders
      exact .refl stands (by constructor <;> assumption)

end Value

-----------------------------------------------------------------------------------------
-- Components
-----------------------------------------------------------------------------------------

namespace Component

/-- A component as it is held. What a memo wraps stands at a place of its own. -/
inductive Handle where
  | function (code : Nat)
  | stateful (code : Nat)
  | provider (context : String)
  | consumer (context : String)
  | memo (place : Nat) (inner : Handle)
  | forwardRef (code : Nat)
  | fragment
  | alias (tag : String)

namespace Handle

/-- The component without the places of its memos. -/
def component : Handle → Component
  | .function code => .function code
  | .stateful code => .stateful code
  | .provider context => .provider context
  | .consumer context => .consumer context
  | .memo _ inner => .memo inner.component
  | .forwardRef code => .forwardRef code
  | .fragment => .fragment
  | .alias tag => .alias tag

/-- Whether two handles are held of one component. Memos of one place are not looked into. -/
def same : Handle → Handle → Bool
  | .function code, .function other => code == other
  | .stateful code, .stateful other => code == other
  | .provider context, .provider other => context == other
  | .consumer context, .consumer other => context == other
  | .memo place inner, .memo other wrapped => place == other || inner.same wrapped
  | .forwardRef code, .forwardRef other => code == other
  | .fragment, .fragment => true
  | .alias tag, .alias other => tag == other
  | _, _ => false

/-- Every memo wraps what stands at its place. -/
inductive StandsIn (wrapped : Nat → Handle) : Handle → Prop
  | function (code : Nat) : StandsIn wrapped (.function code)
  | stateful (code : Nat) : StandsIn wrapped (.stateful code)
  | provider (context : String) : StandsIn wrapped (.provider context)
  | consumer (context : String) : StandsIn wrapped (.consumer context)
  | memo {place : Nat} {inner : Handle} (stands : wrapped place = inner)
    (inside : StandsIn wrapped inner)
    : StandsIn wrapped (.memo place inner)
  | forwardRef (code : Nat) : StandsIn wrapped (.forwardRef code)
  | fragment : StandsIn wrapped .fragment
  | alias (tag : String) : StandsIn wrapped (.alias tag)

variable {wrapped : Nat → Handle}

/-- Handles are the same when their components are equal, by induction on the first. Memos of one
place wrap one thing.
-/
theorem same_eq {handle other : Handle} (stands : StandsIn wrapped handle)
    (stands' : StandsIn wrapped other)
    : handle.same other = (handle.component == other.component) := by
  induction stands generalizing other with
  | memo place inside ih =>
      cases stands' with
      | memo place' inside' =>
          rw [Bool.eq_iff_iff]
          simp only [same, ih inside', component, Bool.or_eq_true, beq_iff_eq, Component.memo.injEq]
          refine or_iff_right_of_imp fun samePlace => ?_
          rw [← place, ← place', samePlace]
      | _ => rfl
  | _ => cases other <;> simp [same, component]

theorem same_equivalence (wrapped : Nat → Handle)
    : Equivalence fun first second : { handle : Handle // handle.StandsIn wrapped } =>
        first.1.same second.1 = true where
  refl handle := by simp [same_eq handle.2 handle.2]
  symm {first second} same := by
    rw [same_eq first.2 second.2, beq_iff_eq] at same
    simp [same_eq second.2 first.2, same]
  trans {first second third} same same' := by
    rw [same_eq first.2 second.2, beq_iff_eq] at same
    rw [same_eq second.2 third.2, beq_iff_eq] at same'
    simp [same_eq first.2 third.2, same, same']

end Handle

end Component

-----------------------------------------------------------------------------------------
-- Values
-----------------------------------------------------------------------------------------

namespace Value

/-- Equality is symmetric and transitive on the values that stand in a memory. A value without a NaN
is equal to itself, and the order of its fields does not matter to what it is compared with. The
components of elements are compared by an equivalence, which does not depend on the places of
memos.
-/
theorem equal_partial_equivalence (memory : Memory) (wrapped : Nat → Component.Handle)
    : (∀ value other,
        StandsIn memory value → StandsIn memory other → value.equal other = other.equal value)
      ∧ (∀ value between other,
          StandsIn memory value → StandsIn memory between → StandsIn memory other
          → value.equal between = true
          → between.equal other = true
          → value.equal other = true)
      ∧ (∀ value, StandsIn memory value → NoNaN value → value.equal value = true)
      ∧ (∀ value reordered other,
          StandsIn memory value → StandsIn memory reordered → StandsIn memory other
          → NoNaN value
          → Reorders value reordered
          → value.equal other = reordered.equal other
            ∧ other.equal value = other.equal reordered)
      ∧ (Equivalence fun first second : { handle : Component.Handle // handle.StandsIn wrapped } =>
          first.1.same second.1 = true)
      ∧ ∀ handle other : Component.Handle,
          handle.StandsIn wrapped → other.StandsIn wrapped
          → handle.same other = (handle.component == other.component) := by
  have symmetric (value other : Value) (stands : StandsIn memory value)
      (stands' : StandsIn memory other)
      : value.equal other = other.equal value := by
    rw [Bool.eq_iff_iff]
    exact ⟨Equal.symm stands stands', Equal.symm stands' stands⟩
  refine ⟨symmetric, fun value between other stands stands' stands'' => Equal.trans stands stands'
    stands'', fun value => Equal.refl, ?_, Component.Handle.same_equivalence wrapped,
    fun handle other => Component.Handle.same_eq⟩
  intro value reordered other stands stands' stands'' noNaN reorders
  have same := Equal.of_reorders noNaN stands stands' reorders
  have left : value.equal other = reordered.equal other := by
    rw [Bool.eq_iff_iff]
    exact ⟨Equal.trans stands' stands stands'' (same.symm stands stands'),
      Equal.trans stands stands' stands'' same⟩
  rw [symmetric other value stands'' stands, symmetric other reordered stands'' stands']
  exact ⟨left, left⟩

/-- An element that is not equal to a copy of it, as it holds a NaN. -/
def unsized : Element :=
  ⟨0, none, .component (.memo (.alias "b")), some "k", none, [("size", .number Binary64.nan)]⟩

/-- Elements in one memory: two of the same content, which refer to the one with the NaN and have
their properties in two orders, and two without a reference.
-/
def sharing : Memory
  | 0, _ => unsized
  | 1, _ => ⟨1, none, .host "p", none, some (.element unsized), [("a", .null), ("b", .bool true)]⟩
  | 2, _ => ⟨2, none, .host "p", none, some (.element unsized), [("b", .bool true), ("a", .null)]⟩
  | 3, _ => ⟨3, none, .fragment, none, none, [("a", .null), ("b", .bool true)]⟩
  | _, _ => ⟨4, none, .fragment, none, none, [("b", .bool true), ("a", .null)]⟩

/-- The two elements that share another one are equal, whose NaN is not compared, and so are two
objects whose fields and whose elements have other orders.
-/
theorem equal_partial_equivalence_shared
    : let first : Value := .element (sharing 1 none)
      let second : Value := .element (sharing 2 none)
      let object : Value := .object [("c", .element (sharing 3 none)), ("d", .null)]
      let reordered : Value := .object [("d", .null), ("c", .element (sharing 4 none))]
      let handle (place : Nat) : Component.Handle := .memo place (.alias "b")
      first.equal second = true
      ∧ second.equal first = true
      ∧ first.equal first = true
      ∧ object.equal object = true
      ∧ object.equal reordered = true
      ∧ (handle 0).same (handle 1) = true := by
  intro first second object reordered handle
  have unsizedStands : StandsIn sharing (.element unsized) :=
    .element rfl (by decide) (by simpa [unsized] using .number _) (by simp [unsized])
  have firstStands : StandsIn sharing first :=
    .element rfl (by decide) (by simpa [sharing] using ⟨.null, .bool true⟩)
      (by simpa [sharing] using unsizedStands)
  have secondStands : StandsIn sharing second :=
    .element rfl (by decide) (by simpa [sharing] using ⟨.bool true, .null⟩)
      (by simpa [sharing] using unsizedStands)
  have plainStands : StandsIn sharing (.element (sharing 3 none)) :=
    .element rfl (by decide) (by simpa [sharing] using ⟨.null, .bool true⟩) (by simp [sharing])
  have turnedStands : StandsIn sharing (.element (sharing 4 none)) :=
    .element rfl (by decide) (by simpa [sharing] using ⟨.bool true, .null⟩) (by simp [sharing])
  have objectStands : StandsIn sharing object :=
    .object (by decide) (by simpa using ⟨plainStands, .null⟩)
  have reorderedStands : StandsIn sharing reordered :=
    .object (by decide) (by simpa using ⟨.null, turnedStands⟩)
  have plainNoNaN : NoNaN (.element (sharing 3 none)) :=
    .element (by simpa [sharing] using ⟨.null, .bool true⟩) (by simp [sharing])
  have noNaN : NoNaN object := .object (by simpa using ⟨plainNoNaN, .null⟩)
  have alike : Fields.Like Reorders (sharing 3 none).props (sharing 3 none).props :=
    .cons (.of (.same _)) (.cons (.of (.same _)) .nil)
  have reorders : Reorders object reordered :=
    .object (.cons (.of (.element .none alike (.swap ..))) (.cons (.of (.same _)) .nil)) (.swap ..)
  obtain ⟨symmetric, transitive, reflexive, ordered, -, handles⟩ :=
    equal_partial_equivalence sharing fun _ => .alias "b"
  have same : first.equal second = true := by decide +kernel
  have back : second.equal first = true :=
    (symmetric first second firstStands secondStands).symm.trans same
  have self : object.equal object = true := reflexive object objectStands noNaN
  refine ⟨same, back, ?_, self, ?_, ?_⟩
  · exact transitive first second first firstStands secondStands firstStands same back
  · exact (ordered object reordered object objectStands reorderedStands objectStands noNaN
      reorders).2.symm.trans self
  · exact handles _ _ (.memo rfl (.alias "b")) (.memo rfl (.alias "b"))

end Value

end TaggedMarkup
