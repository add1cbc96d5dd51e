import TaggedMarkup.Proofs.Rendering.Properties

/-! Form elements read their children as text. A node inside is a bound template in one kind of
properties and an element in the other, and neither of them has a text that is read.
-/

namespace TaggedMarkup

/-- Two values are the same, or a node as a bound template and as an element. -/
inductive Value.Similar : Value → Value → Prop
  | same (value : Value) : Value.Similar value value
  | inner (markup : Markup) (element : Element)
    : Value.Similar (.markup markup) (.element element)

/-- The text that a form element reads from its children. -/
def Value.firstText : Value → String
  | .array items => (items.headD .undefined).text
  | value => value.text

/-- Form elements read the same from two values as children. -/
structure Value.ReadAlike (value other : Value) : Prop where
  nullish : value.isNullish = other.isNullish
  first : value.firstText = other.firstText
  flat : FormControl.flatText value = FormControl.flatText other

theorem Value.Similar.readAlike {value other : Value} (similar : Value.Similar value other)
    : Value.ReadAlike value other := by
  cases similar with
  | same value => exact ⟨rfl, rfl, rfl⟩
  | inner markup element =>
      refine ⟨rfl, ?_, ?_⟩
      · simp only [Value.firstText, Value.text]
      · simp only [FormControl.flatText]

theorem Value.Similar.text {value other : Value} (similar : Value.Similar value other)
    : value.text = other.text := by
  cases similar with
  | same value => rfl
  | inner markup element => simp only [Value.text]

/-- Lists of similar values have the same text in a form element. -/
theorem flatTexts_similar {α : Type} {items : List α} {left right : α → Value}
    (similar : ∀ item ∈ items, Value.Similar (left item) (right item))
    : FormControl.flatTexts (items.map left) = FormControl.flatTexts (items.map right) := by
  induction items with
  | nil => rfl
  | cons item rest ih =>
      have here := (similar item (List.mem_cons_self ..)).readAlike.flat
      have later := ih fun other member => similar other (List.mem_cons_of_mem _ member)
      simp only [List.map_cons, FormControl.flatTexts, here, later]

theorem readAlike_ofChildren {α : Type} {items : List α} {left right : α → Value}
    (similar : ∀ item ∈ items, Value.Similar (left item) (right item))
    : Value.ReadAlike (Value.ofChildren (items.map left)) (Value.ofChildren (items.map right)) := by
  match items with
  | [] => exact ⟨rfl, rfl, rfl⟩
  | [item] => exact (similar item (List.mem_singleton_self item)).readAlike
  | first :: second :: rest =>
      have flat := flatTexts_similar similar
      refine ⟨rfl, ?_, ?_⟩
      · exact (similar first (List.mem_cons_self ..)).text
      · simpa only [List.map_cons, Value.ofChildren, FormControl.flatText] using flat

namespace FormControl

variable {props : Props} {value other : Value}

/-- The content of a `textarea` is the same for children that are read alike. -/
theorem textareaText_readAlike (alike : Value.ReadAlike value other) (props : Props)
    : textareaText (Fields.insert props "children" value)
      = textareaText (Fields.insert props "children" other) := by
  have apart (name : String) (differs : "children" ≠ name) (child : Value)
      : Fields.get? (Fields.insert props "children" child) name = Fields.get? props name := by
    rw [Fields.get?_insert, if_neg differs]
  have here (child : Value)
      : Fields.get? (Fields.insert props "children" child) "children" = some child := by
    rw [Fields.get?_insert, if_pos rfl]
  have text (child : Value) (present : child.isNullish = false)
      : textareaText (Fields.insert props "children" child)
        = (((Fields.get? props "value").bind Value.present?).map Value.text).getD
            child.firstText := by
    have isPresent : child.present? = some child := by simp [Value.present?, present]
    simp only [textareaText, apart "value" (by decide), here, Option.bind_some, isPresent]
    cases (Fields.get? props "value").bind Value.present? with
    | some value => rfl
    | none => cases child <;> rfl
  cases nullish : value.isNullish with
  | false => rw [text value nullish, text other (alike.nullish ▸ nullish), alike.first]
  | true =>
      have absent : value.present? = none := by simp [Value.present?, nullish]
      have absent' : other.present? = none := by simp [Value.present?, ← alike.nullish, nullish]
      simp only [textareaText, apart "value" (by decide), apart "defaultValue" (by decide), here,
        Option.bind_some, absent, absent']

/-- The text of an `option` is the same for children that are read alike. -/
theorem optionText_readAlike (alike : Value.ReadAlike value other) (props : Props)
    : optionText (Fields.insert props "children" value)
      = optionText (Fields.insert props "children" other) := by
  simp only [optionText, Fields.get?_insert, if_true, alike.flat]

/-- The mark of an `option` is the same for children that are read alike. -/
theorem optionSelected_readAlike (alike : Value.ReadAlike value other) (props : Props)
    (selection : Option Value)
    : optionSelected selection (Fields.insert props "children" value)
      = optionSelected selection (Fields.insert props "children" other) := by
  have apart (child : Value)
      : Fields.get? (Fields.insert props "children" child) "value" = Fields.get? props "value" := by
    rw [Fields.get?_insert, if_neg (by decide)]
  simp only [optionSelected, optionValue, apart, optionText_readAlike alike]

theorem writable_textareaProps (props : Props)
    : writable (textareaProps props) = Fields.insert (writable props) "value" .undefined :=
  (writable_insert_excluded _ _ rfl).trans (writable_insert _ _ rfl)

theorem writable_optionProps (selection : Option Value) (props : Props)
    : writable (optionProps selection props)
      = Fields.insert
          (Fields.insertAll (writable [("selected", .undefined), ("children", .undefined)])
            (writable props))
          "selected" (optionSelected selection props) := by
  apply (writable_insert_excluded _ _ rfl).trans
  rw [writable_insert _ _ rfl, writable_insertAll]

theorem inner_textareaProps (props : Props)
    : Fields.get? (textareaProps props) "dangerouslySetInnerHTML"
      = Fields.get? props "dangerouslySetInnerHTML" := by
  rw [textareaProps, Fields.get?_insert, if_neg (by decide), Fields.get?_insert,
    if_neg (by decide)]

/-- An `option` has no markup when its properties have none. -/
theorem inner_optionProps (selection : Option Value)
    (noInner : Fields.get? props "dangerouslySetInnerHTML" = none)
    : Fields.get? (optionProps selection props) "dangerouslySetInnerHTML" = none := by
  have absent : Fields.get? (List.reverse props) "dangerouslySetInnerHTML" = none := by
    rw [Fields.get?_eq_none_iff] at noInner ⊢
    intro field member
    exact noInner field (List.mem_reverse.mp member)
  rw [optionProps, Fields.get?_insert, if_neg (by decide), Fields.get?_insert,
    if_neg (by decide), Fields.get?_insertAll, absent]
  rfl

end FormControl

namespace Render

variable {cx : RenderSettings} {props : Props} {value other : Value} {tag : String}

/-- A form element that may have children renders the same for children that are read alike. -/
theorem renderControl_readAlike (alike : Value.ReadAlike value other) (notInput : tag ≠ "input")
    (noInner : Fields.get? props "dangerouslySetInnerHTML" = none)
    : renderControl cx tag (Fields.insert props "children" value)
      = renderControl cx tag (Fields.insert props "children" other) := by
  have same : writable (Fields.insert props "children" value)
      = writable (Fields.insert props "children" other) := by
    rw [writable_insert_excluded _ _ rfl, writable_insert_excluded _ _ rfl]
  have inner (child : Value)
      : Fields.get? (Fields.insert props "children" child) "dangerouslySetInnerHTML" = none := by
    rw [Fields.get?_insert, if_neg (by decide), noInner]
  simp only [renderControl, if_neg notInput]
  split
  · rw [FormControl.textareaText_readAlike alike]
    apply renderElement_congr
    · rw [FormControl.writable_textareaProps, FormControl.writable_textareaProps, same]
    · simp only [FormControl.textareaProps, Fields.get?_insert, if_true,
        FormControl.textareaText_readAlike alike]
    · rw [FormControl.inner_textareaProps, FormControl.inner_textareaProps, inner, inner]
  · have each (selection : Option Value) (children : Render Unit)
        : renderElement cx tag
            (FormControl.optionProps selection (Fields.insert props "children" value)) children
          = renderElement cx tag
            (FormControl.optionProps selection (Fields.insert props "children" other))
            children := by
      apply renderElement_congr
      · rw [FormControl.writable_optionProps, FormControl.writable_optionProps, same,
          FormControl.optionSelected_readAlike alike]
      · simp only [FormControl.optionProps, Fields.get?_insert, if_true,
          FormControl.optionText_readAlike alike]
      · rw [FormControl.inner_optionProps _ (inner value),
          FormControl.inner_optionProps _ (inner other)]
    simp only [each, FormControl.optionText_readAlike alike]

end Render

end TaggedMarkup
