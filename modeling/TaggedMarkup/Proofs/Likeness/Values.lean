import Mathlib.Data.List.Forall2
import Mathlib.Data.Option.Basic
import TaggedMarkup.Render.HostElement
import TaggedMarkup.Proofs.Fields

/-! Values that differ at most in the templates that are bound in them. Nobody who reads such
values without looking into bound templates can tell them apart, so what is read of them is
the same or differs in the same way.
-/

namespace TaggedMarkup

-----------------------------------------------------------------------------------------
-- Fields
-----------------------------------------------------------------------------------------

/-- Two fields of one name whose values are related. -/
inductive Field.Like {α : Type} (like : α → α → Prop) : String × α → String × α → Prop
  | of {name : String} {value other : α} (values : like value other)
    : Field.Like like (name, value) (name, other)

/-- The same names in the same order, with values that are related. -/
abbrev Fields.Like {α : Type} (like : α → α → Prop) (fields others : Fields α) : Prop :=
  List.Forall₂ (Field.Like like) fields others

namespace Fields.Like

variable {α : Type} {like : α → α → Prop} {fields others more more' : Fields α}

theorem names (alike : Fields.Like like fields others)
    : Fields.names fields = Fields.names others := by
  induction alike with
  | nil => rfl
  | cons first _ ih =>
      cases first with
      | of => exact congrArg (_ :: ·) ih

theorem get? (alike : Fields.Like like fields others) (name : String)
    : Option.Rel like (Fields.get? fields name) (Fields.get? others name) := by
  induction alike with
  | nil => exact .none
  | cons first _ ih =>
      cases first with
      | of values =>
          simp only [Fields.get?]
          split
          · exact .some values
          · exact ih

theorem contains (alike : Fields.Like like fields others) (name : String)
    : Fields.contains fields name = Fields.contains others name := by
  induction alike with
  | nil => rfl
  | cons first _ ih =>
      cases first with
      | of => exact congrArg (_ || ·) ih

/-- Which fields are kept may depend on their names. -/
theorem filter (alike : Fields.Like like fields others) (keep : String → Bool)
    : Fields.Like like (fields.filter fun field => keep field.1)
        (others.filter fun field => keep field.1) := by
  induction alike with
  | nil => exact .nil
  | cons first _ ih =>
      cases first with
      | of values =>
          simp only [List.filter_cons]
          split
          · exact .cons (.of values) ih
          · exact ih

theorem erase (alike : Fields.Like like fields others) (name : String)
    : Fields.Like like (Fields.erase fields name) (Fields.erase others name) :=
  alike.filter fun other => other != name

theorem insert (alike : Fields.Like like fields others) (name : String) {value other : α}
    (values : like value other)
    : Fields.Like like (Fields.insert fields name value) (Fields.insert others name other) := by
  induction alike with
  | nil => exact .cons (.of values) .nil
  | cons first rest ih =>
      cases first with
      | of found =>
          simp only [Fields.insert]
          split
          · exact .cons (.of values) rest
          · exact .cons (.of found) ih

theorem insertAll (alike : Fields.Like like fields others)
    (entries : Fields.Like like more more')
    : Fields.Like like (Fields.insertAll fields more) (Fields.insertAll others more') := by
  induction entries generalizing fields others with
  | nil => exact alike
  | cons first _ ih =>
      cases first with
      | of values => exact ih (alike.insert _ values)

theorem ofEntries (entries : Fields.Like like more more')
    : Fields.Like like (Fields.ofEntries more) (Fields.ofEntries more') :=
  insertAll .nil entries

/-- The fields at one position have values that are related. -/
theorem getElem?_value (alike : Fields.Like like fields others) (position : Nat)
    : Option.Rel like (fields[position]?.map Prod.snd) (others[position]?.map Prod.snd) := by
  induction alike generalizing position with
  | nil => exact .none
  | cons first _ ih =>
      cases position with
      | zero =>
          cases first with
          | of values => exact .some values
      | succ position => exact ih position

/-- The names with their positions are the same. -/
theorem zipIdx (alike : Fields.Like like fields others) {β : Type} (entry : String → Nat → β)
    (start : Nat)
    : (fields.zipIdx start).map (fun place => entry place.1.1 place.2)
      = (others.zipIdx start).map fun place => entry place.1.1 place.2 := by
  induction alike generalizing start with
  | nil => rfl
  | cons first _ ih =>
      cases first with
      | of => exact congrArg (_ :: ·) (ih (start + 1))

end Fields.Like

-----------------------------------------------------------------------------------------
-- Values
-----------------------------------------------------------------------------------------

/-- A compiled template, or one node in it. -/
abbrev Part := Compiled × Option Nat

/-- Two values differ at most in bound templates of which one stands for the other. -/
inductive Value.Like (standsFor : Part → Part → Prop) : Value → Value → Prop
  | undefined : Value.Like standsFor .undefined .undefined
  | null : Value.Like standsFor .null .null
  | bool (value : Bool) : Value.Like standsFor (.bool value) (.bool value)
  | number (value : Binary64) : Value.Like standsFor (.number value) (.number value)
  | string (value : String) : Value.Like standsFor (.string value) (.string value)
  | array {items others : List Value} (inside : List.Forall₂ (Value.Like standsFor) items others)
    : Value.Like standsFor (.array items) (.array others)
  | object {fields others : List (String × Value)}
    (inside : List.Forall₂ (Field.Like (Value.Like standsFor)) fields others)
    : Value.Like standsFor (.object fields) (.object others)
  | element {serial : Nat} {part : Option Nat} {kind : ElementKind} {key : Option String}
    {reference reference' : Option Value} {props props' : List (String × Value)}
    (references : Option.Rel (Value.Like standsFor) reference reference')
    (inside : List.Forall₂ (Field.Like (Value.Like standsFor)) props props')
    : Value.Like standsFor (.element ⟨serial, part, kind, key, reference, props⟩)
        (.element ⟨serial, part, kind, key, reference', props'⟩)
  | markup {serial : Nat} {form form' : Compiled} {entry entry' : Option Nat}
    {values values' : List Value} (parts : standsFor (form, entry) (form', entry'))
    (inside : List.Forall₂ (Value.Like standsFor) values values')
    : Value.Like standsFor (.markup ⟨serial, form, values, entry⟩)
        (.markup ⟨serial, form', values', entry'⟩)
  | function {serial code : Nat} {props props' : List (String × Value)}
    {reference reference' state state' : Value}
    (inside : List.Forall₂ (Field.Like (Value.Like standsFor)) props props')
    (references : Value.Like standsFor reference reference')
    (states : Value.Like standsFor state state')
    : Value.Like standsFor (.function ⟨serial, code, ⟨props, reference, state⟩⟩)
        (.function ⟨serial, code, ⟨props', reference', state'⟩⟩)
  | symbol (description : String)
    : Value.Like standsFor (.symbol description) (.symbol description)

variable {standsFor : Part → Part → Prop} {value other : Value} {items others : List Value}
  {props props' : Props}

namespace Value

/-- Values in the same order, each like the other. -/
abbrev AllLike (standsFor : Part → Part → Prop) (values others : List Value) : Prop :=
  List.Forall₂ (Value.Like standsFor) values others

mutual

/-- A value is like itself if every template stands for itself, by induction on the value. -/
theorem Like.refl (same : ∀ part, standsFor part part) : ∀ value, Value.Like standsFor value value
  | .undefined => .undefined
  | .null => .null
  | .bool value => .bool value
  | .number value => .number value
  | .string value => .string value
  | .symbol description => .symbol description
  | .array items => .array (AllLike.refl same items)
  | .object fields => .object (fieldsLike_refl same fields)
  | .element ⟨_, _, _, _, none, props⟩ => .element .none (fieldsLike_refl same props)
  | .element ⟨_, _, _, _, some reference, props⟩ =>
      .element (.some (Like.refl same reference)) (fieldsLike_refl same props)
  | .markup ⟨_, form, values, entry⟩ => .markup (same (form, entry)) (AllLike.refl same values)
  | .function ⟨_, _, ⟨props, reference, state⟩⟩ =>
      .function (fieldsLike_refl same props) (Like.refl same reference) (Like.refl same state)

theorem AllLike.refl (same : ∀ part, standsFor part part)
    : ∀ items : List Value, AllLike standsFor items items
  | [] => .nil
  | item :: rest => .cons (Like.refl same item) (AllLike.refl same rest)

theorem fieldsLike_refl (same : ∀ part, standsFor part part)
    : ∀ fields : List (String × Value), Fields.Like (Value.Like standsFor) fields fields
  | [] => .nil
  | (_, value) :: rest => .cons (.of (Like.refl same value)) (fieldsLike_refl same rest)

end

-----------------------------------------------------------------------------------------
-- What is read of a value
-----------------------------------------------------------------------------------------

namespace Like

theorem isNullish (like : Value.Like standsFor value other)
    : value.isNullish = other.isNullish := by
  cases like <;> rfl

theorem isTruthy (like : Value.Like standsFor value other) : value.isTruthy = other.isTruthy := by
  cases like <;> rfl

theorem string? (like : Value.Like standsFor value other) : value.string? = other.string? := by
  cases like <;> rfl

theorem present? (like : Value.Like standsFor value other)
    : Option.Rel (Value.Like standsFor) value.present? other.present? := by
  simp only [Value.present?, like.isNullish]
  split
  · exact .none
  · exact .some like

theorem fields? (like : Value.Like standsFor value other)
    : Option.Rel (Fields.Like (Value.Like standsFor)) value.fields? other.fields? := by
  cases like with
  | object inside => exact .some inside
  | _ => exact .none

theorem get? (like : Value.Like standsFor value other) (name : String)
    : Option.Rel (Value.Like standsFor) (value.get? name) (other.get? name) := by
  cases like with
  | object inside => exact Fields.Like.get? inside name
  | _ => exact .none

mutual

/-- Values that are alike have the same text, by induction on the value. -/
theorem text : ∀ {value other : Value}, Value.Like standsFor value other → value.text = other.text
  | .array items, _, .array inside => by simp only [Value.text, itemTexts inside]
  | .undefined, _, like | .null, _, like | .bool _, _, like | .number _, _, like
  | .string _, _, like | .object _, _, like | .element _, _, like | .markup _, _, like
  | .function _, _, like | .symbol _, _, like => by cases like; rfl

theorem itemTexts
    : ∀ {items others : List Value},
        AllLike standsFor items others → Value.itemTexts items = Value.itemTexts others
  | [], _, .nil => rfl
  | _ :: _, _, .cons first rest => by
      simp only [Value.itemTexts, first.isNullish, text first, itemTexts rest]

end

/-- Values that are alike are the same number. -/
theorem toNumber (like : Value.Like standsFor value other) : value.toNumber = other.toNumber := by
  cases like with
  | array inside =>
      cases inside with
      | nil => rfl
      | cons first rest =>
          cases rest with
          | nil =>
              have texts := text (.array (.cons first .nil))
              simp only [Value.toNumber, texts]
          | cons => rfl
  | _ => rfl

mutual

/-- Values that are alike hold the same strings and numbers, by induction on the value. -/
theorem flatText
    : ∀ {value other : Value},
        Value.Like standsFor value other → FormControl.flatText value = FormControl.flatText other
  | .array items, _, .array inside => by simp only [FormControl.flatText, flatTexts inside]
  | .undefined, _, like | .null, _, like | .bool _, _, like | .number _, _, like
  | .string _, _, like | .object _, _, like | .element _, _, like | .markup _, _, like
  | .function _, _, like | .symbol _, _, like => by cases like; rfl

theorem flatTexts
    : ∀ {items others : List Value},
        AllLike standsFor items others
        → FormControl.flatTexts items = FormControl.flatTexts others
  | [], _, .nil => rfl
  | _ :: _, _, .cons first rest => by
      simp only [FormControl.flatTexts, flatText first, flatTexts rest]

end

end Like

end Value

end TaggedMarkup
