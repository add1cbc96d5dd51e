import TaggedMarkup.ElementGraph
import TaggedMarkup.Proofs.Likeness.Values
import TaggedMarkup.Proofs.Merging

/-! The properties of a node are merged alike from values that are alike, whatever becomes of
them: attributes, content, what a form element makes of them, or elements.
-/

namespace TaggedMarkup

variable {standsFor : Part → Part → Prop} {value other : Value} {props props' : Props}

-----------------------------------------------------------------------------------------
-- Attributes
-----------------------------------------------------------------------------------------

namespace WrittenAttribute

theorem isDropped_like (like : Value.Like standsFor value other) (name : String)
    (property : Option Html.Property)
    : isDropped name value property = isDropped name other property := by
  have truth := like.isTruthy
  have number := like.toNumber
  cases like with
  | array | object | element | markup => simp only [isDropped, truth, number]
  | _ => rfl

theorem isEmptied_like (like : Value.Like standsFor value other) (kind : Html.PropertyKind)
    : isEmptied kind value = isEmptied kind other := by
  cases like <;> cases kind <;> rfl

theorem quoted_like (like : Value.Like standsFor value other) (name : String)
    : quoted name value = quoted name other := by
  simp only [quoted, like.text]

/-- Values that are alike are written as the same attribute. -/
theorem ofProperty?_like (like : Value.Like standsFor value other) (name : String)
    (custom : Bool)
    : ofProperty? name value custom = ofProperty? name other custom := by
  cases custom with
  | false =>
      simp only [ofProperty?, Bool.false_eq_true, if_false, standard?, isDropped_like like,
        isEmptied_like like, quoted_like like]
  | true =>
      have same := quoted_like like name
      simp only [ofProperty?, custom?, if_true]
      cases like <;> simp only [same]

theorem declarations_like (inside : Fields.Like (Value.Like standsFor) props props')
    : Style.declarations props = Style.declarations props' := by
  induction inside with
  | nil => rfl
  | cons first _ ih =>
      cases first with
      | of like =>
          have null := like.isNullish
          have text := like.text
          simp only [Style.declarations, List.filterMap_cons] at ih ⊢
          simp only [ih]
          cases like <;> simp only [null, text, Style.valueText]

theorem ofStyle?_like (like : Value.Like standsFor value other)
    : ofStyle? value = ofStyle? other := by
  cases like with
  | object inside => simp only [ofStyle?, Style.serialize?, declarations_like inside]
  | _ => rfl

theorem ofProps_like (alike : Fields.Like (Value.Like standsFor) props props') (custom : Bool)
    : ofProps props custom = ofProps props' custom := by
  induction alike with
  | nil => rfl
  | cons first _ ih =>
      cases first with
      | of like =>
          simp only [ofProps, ofProp?, ofStyle?_like like, ofProperty?_like like, ih]

end WrittenAttribute

-----------------------------------------------------------------------------------------
-- Merged properties
-----------------------------------------------------------------------------------------

section Merged

variable {values values' : List Value}

theorem Value.AllLike.getElem? (alike : Value.AllLike standsFor values values') (slot : Nat)
    : Option.Rel (Value.Like standsFor) values[slot]? values'[slot]? := by
  induction alike generalizing slot with
  | nil => exact .none
  | cons first _ ih =>
      cases slot with
      | zero => exact .some first
      | succ slot => exact ih slot

theorem Value.Like.getD {found found' : Option Value}
    (alike : Option.Rel (Value.Like standsFor) found found')
    : Value.Like standsFor (found.getD .undefined) (found'.getD .undefined) := by
  cases alike with
  | none => exact .undefined
  | some like => exact like

theorem Value.AllLike.getD (alike : Value.AllLike standsFor values values') (slot : Nat)
    : Value.Like standsFor (values.getD slot .undefined) (values'.getD slot .undefined) := by
  simpa only [List.getD_eq_getElem?_getD] using Value.Like.getD (alike.getElem? slot)

theorem spreadFields?_like (alike : Value.AllLike standsFor values values') (slot : Nat)
    : Option.Rel (Fields.Like (Value.Like standsFor)) (spreadFields? values slot)
        (spreadFields? values' slot) := by
  have found := alike.getElem? slot
  simp only [spreadFields?]
  generalize values[slot]? = value, values'[slot]? = other at found ⊢
  cases found with
  | none => exact .none
  | some like => exact like.fields?

theorem dynamicName?_like (alike : Value.AllLike standsFor values values') (slot : Nat)
    : values[slot]?.bind dynamicName? = values'[slot]?.bind dynamicName? := by
  have found := alike.getElem? slot
  generalize values[slot]? = value, values'[slot]? = other at found ⊢
  cases found with
  | none => rfl
  | some like => cases like <;> rfl

theorem Source.value_like (alike : Value.AllLike standsFor values values') (source : Source)
    : Value.Like standsFor (source.value values) (source.value values') := by
  cases source with
  | literal text => exact .string text
  | bare => exact .bool true
  | slot index => exact alike.getD index
  | field place position =>
      have found := alike.getElem? place
      simp only [Source.value]
      generalize values[place]? = value, values'[place]? = other at found ⊢
      cases found with
      | none => exact .undefined
      | some like =>
          cases like with
          | object inside => exact Value.Like.getD (Fields.Like.getElem?_value inside position)
          | _ => exact .undefined

/-- The names that a spread writes, and where their values stand, do not depend on the values. -/
theorem Attribute.assignments_like (alike : Value.AllLike standsFor values values')
    (written : Attribute)
    : written.assignments values = written.assignments values' := by
  cases written with
  | named => rfl
  | dynamicName slot => simp only [Attribute.assignments, dynamicName?_like alike]
  | spread slot =>
      have found := spreadFields?_like alike slot
      simp only [Attribute.assignments]
      generalize spreadFields? values slot = fields,
        spreadFields? values' slot = others at found ⊢
      cases found with
      | none => rfl
      | some inside =>
          exact inside.zipIdx (fun name position => (name, Source.field slot position)) 0

theorem Node.sources_like (alike : Value.AllLike standsFor values values') (node : Node)
    : node.sources values = node.sources values' := by
  have same := funext (Attribute.assignments_like alike)
  simp only [Node.sources, same]

theorem Node.props_like (alike : Value.AllLike standsFor values values') (node : Node)
    : Fields.Like (Value.Like standsFor) (node.props values) (node.props values') := by
  simp only [Node.props, node.sources_like alike, List.forall₂_map_left_iff,
    List.forall₂_map_right_iff, List.forall₂_same]
  exact fun field _ => .of (field.2.value_like alike)

theorem Node.spreadHas_like (alike : Value.AllLike standsFor values values') (name : String)
    (slot : Nat)
    : Node.spreadHas values name slot = Node.spreadHas values' name slot := by
  have found := spreadFields?_like alike slot
  simp only [Node.spreadHas]
  generalize spreadFields? values slot = fields, spreadFields? values' slot = others at found ⊢
  cases found with
  | none => rfl
  | some inside => exact inside.contains name

theorem Node.isOverridden_like (alike : Value.AllLike standsFor values values') (node : Node)
    (entry : Nat) (name : String)
    : node.isOverridden entry name values = node.isOverridden entry name values' := by
  simp only [Node.isOverridden, Node.spreadHas_like alike]

theorem Node.writesDynamically_like (alike : Value.AllLike standsFor values values')
    (name : String)
    : Node.writesDynamically values name = Node.writesDynamically values' name := by
  funext written
  cases written <;>
    simp only [Node.writesDynamically, dynamicName?_like alike, Node.spreadHas_like alike]

theorem Node.spreadSurvivors_like (alike : Value.AllLike standsFor values values')
    (node : Node) (entry : Nat)
    : Fields.Like (Value.Like standsFor) (node.spreadSurvivors entry values)
        (node.spreadSurvivors entry values') := by
  simp only [Node.spreadSurvivors]
  cases node.spreadAt? entry with
  | none => exact .nil
  | some note =>
      have found := spreadFields?_like alike note.slot
      simp only [Node.writesDynamically_like alike]
      generalize spreadFields? values note.slot = fields,
        spreadFields? values' note.slot = others at found ⊢
      cases found with
      | none => exact .nil
      | some inside =>
          exact inside.filter fun name =>
            !note.after.contains name
              && !(node.attributes.drop (entry + 1)).any (Node.writesDynamically values' name)

theorem Node.passed_like (alike : Value.AllLike standsFor values values') (node : Node)
    (entry : Nat) (written : Attribute)
    : Fields.Like (Value.Like standsFor) (node.passed values entry written)
        (node.passed values' entry written) := by
  cases written with
  | named name value =>
      simp only [Node.passed, Node.isOverridden_like alike]
      split
      · exact .nil
      · exact .cons (.of (value.source.value_like alike)) .nil
  | dynamicName slot =>
      simp only [Node.passed, dynamicName?_like alike, Node.isOverridden_like alike]
      cases values'[slot]?.bind dynamicName? with
      | none => exact .nil
      | some name =>
          dsimp only
          split
          · exact .nil
          · exact .cons (.of (.bool true)) .nil
  | spread slot => exact node.spreadSurvivors_like alike entry

/-- What the attributes of a node pass on to be written, by induction on them. -/
theorem Node.emissionsFrom_like (alike : Value.AllLike standsFor values values') (node : Node)
    (entry : Nat) (attributes : List Attribute)
    : Fields.Like (Value.Like standsFor)
        ((node.emissionsFrom values entry attributes).map Emission.field)
        ((node.emissionsFrom values' entry attributes).map Emission.field) := by
  induction attributes generalizing entry with
  | nil => exact .nil
  | cons written rest ih =>
      simp only [Node.emissionsFrom_fields]
      have kept := (node.passed_like alike entry written).filter fun name => !Node.excluded name
      exact List.rel_append kept (ih (entry + 1))

theorem Fields.Like.present? (alike : Fields.Like (Value.Like standsFor) props props')
    (name : String)
    : Option.Rel (Value.Like standsFor) ((Fields.get? props name).bind Value.present?)
        ((Fields.get? props' name).bind Value.present?) := by
  have found := alike.get? name
  generalize Fields.get? props name = value, Fields.get? props' name = other at found ⊢
  cases found with
  | none => exact .none
  | some like => exact like.present?

/-- Properties that are alike have the same key, and the rest of them is alike again. -/
theorem splitIdentity_like (alike : Fields.Like (Value.Like standsFor) props props')
    : (splitIdentity props).1.key = (splitIdentity props').1.key
      ∧ Option.Rel (Value.Like standsFor) (splitIdentity props).1.reference
          (splitIdentity props').1.reference
      ∧ Fields.Like (Value.Like standsFor) (splitIdentity props).2 (splitIdentity props').2 := by
  refine ⟨?_, alike.present? "ref", (alike.erase "key").erase "ref"⟩
  have key := alike.present? "key"
  simp only [splitIdentity]
  generalize (Fields.get? props "key").bind Value.present? = value,
    (Fields.get? props' "key").bind Value.present? = other at key ⊢
  cases key with
  | none => rfl
  | some like => exact congrArg some like.text

theorem Value.Like.ofChildren (alike : Value.AllLike standsFor values values')
    : Value.Like standsFor (Value.ofChildren values) (Value.ofChildren values') := by
  cases alike with
  | nil => exact .array .nil
  | cons first rest =>
      cases rest with
      | nil => exact first
      | cons second others => exact .array (.cons first (.cons second others))

end Merged

-----------------------------------------------------------------------------------------
-- Content
-----------------------------------------------------------------------------------------

/-- The same failure, or the same kind of content with children that are alike. -/
inductive Content.Like (standsFor : Part → Part → Prop)
    : Except Error Content → Except Error Content → Prop
  | error (error : Error) : Content.Like standsFor (.error error) (.error error)
  | nothing : Content.Like standsFor (.ok .nothing) (.ok .nothing)
  | children {value other : Value} (like : Value.Like standsFor value other)
    : Content.Like standsFor (.ok (.children value)) (.ok (.children other))
  | innerHtml (markup : String)
    : Content.Like standsFor (.ok (.innerHtml markup)) (.ok (.innerHtml markup))

theorem Content.innerHtml?_like (like : Value.Like standsFor value other)
    : Content.innerHtml? value = Content.innerHtml? other := by
  cases like with
  | object inside =>
      have markup := Fields.Like.get? inside "__html"
      simp only [Content.innerHtml?, Value.get?, Value.fields?, Option.bind_some]
      generalize Fields.get? _ "__html" = value at markup ⊢
      generalize Fields.get? _ "__html" = other at markup ⊢
      cases markup with
      | none => rfl
      | some like =>
          simp only [Value.present?, like.isNullish]
          split
          · rfl
          · simp only [Option.map_some, like.text]
  | _ => rfl

/-- The content of properties that are alike is alike. -/
theorem Content.ofProps_like (alike : Fields.Like (Value.Like standsFor) props props')
    : Content.Like standsFor (Content.ofProps props) (Content.ofProps props') := by
  have given := alike.present? "children"
  have inner := alike.present? "dangerouslySetInnerHTML"
  simp only [Content.ofProps]
  generalize (Fields.get? props "children").bind Value.present? = children,
    (Fields.get? props' "children").bind Value.present? = children' at given ⊢
  generalize (Fields.get? props "dangerouslySetInnerHTML").bind Value.present? = html,
    (Fields.get? props' "dangerouslySetInnerHTML").bind Value.present? = html' at inner ⊢
  cases given with
  | none =>
      cases inner with
      | none => exact .nothing
      | some like =>
          simp only [Content.innerHtml?_like like]
          cases Content.innerHtml? _ with
          | error error => exact .error error
          | ok markup =>
              cases markup with
              | none => exact .nothing
              | some markup => exact .innerHtml markup
  | some like =>
      cases inner with
      | none => exact .children like
      | some => exact .error _

theorem Render.hasContent_like (alike : Fields.Like (Value.Like standsFor) props props')
    : Render.hasContent props = Render.hasContent props' := by
  have present (name : String)
      : ((Fields.get? props name).bind Value.present?).isSome
        = ((Fields.get? props' name).bind Value.present?).isSome := by
    have found := alike.present? name
    generalize (Fields.get? props name).bind Value.present? = value,
      (Fields.get? props' name).bind Value.present? = value' at found ⊢
    cases found <;> rfl
  simp only [Render.hasContent, present]

-----------------------------------------------------------------------------------------
-- Form elements
-----------------------------------------------------------------------------------------

namespace FormControl

theorem firstPresent_like (alike : Fields.Like (Value.Like standsFor) props props')
    (first second : String)
    : Value.Like standsFor (firstPresent props first second)
        (firstPresent props' first second) := by
  have one := alike.present? first
  have other := alike.present? second
  simp only [firstPresent]
  generalize (Fields.get? props first).bind Value.present? = value,
    (Fields.get? props' first).bind Value.present? = value' at one ⊢
  cases one with
  | none => exact Value.Like.getD other
  | some like => exact like

theorem inputProps_like (alike : Fields.Like (Value.Like standsFor) props props')
    : Fields.Like (Value.Like standsFor) (inputProps props) (inputProps props') := by
  have type : Fields.Like (Value.Like standsFor) [("type", .undefined)] [("type", .undefined)] :=
    .cons (.of .undefined) .nil
  exact ((type.insertAll alike).insert _ (firstPresent_like alike _ _)).insert _
    (firstPresent_like alike _ _)

theorem selectValue_like (alike : Fields.Like (Value.Like standsFor) props props')
    : Value.Like standsFor (selectValue props) (selectValue props') :=
  firstPresent_like alike _ _

theorem selectProps_like (alike : Fields.Like (Value.Like standsFor) props props')
    : Fields.Like (Value.Like standsFor) (selectProps props) (selectProps props') :=
  alike.insert _ .undefined

theorem textareaText_like (alike : Fields.Like (Value.Like standsFor) props props')
    : textareaText props = textareaText props' := by
  have value := alike.present? "value"
  have children := alike.present? "children"
  have default := alike.present? "defaultValue"
  simp only [textareaText]
  generalize (Fields.get? props "value").bind Value.present? = first,
    (Fields.get? props' "value").bind Value.present? = first' at value ⊢
  generalize (Fields.get? props "children").bind Value.present? = second,
    (Fields.get? props' "children").bind Value.present? = second' at children ⊢
  generalize (Fields.get? props "defaultValue").bind Value.present? = third,
    (Fields.get? props' "defaultValue").bind Value.present? = third' at default ⊢
  cases value with
  | some like => exact like.text
  | none =>
      cases children with
      | some like =>
          cases like with
          | array inside =>
              cases inside with
              | nil => rfl
              | cons like => exact like.text
          | _ => rfl
      | none =>
          cases default with
          | some like => exact like.text
          | none => rfl

theorem textareaProps_like (alike : Fields.Like (Value.Like standsFor) props props')
    : Fields.Like (Value.Like standsFor) (textareaProps props) (textareaProps props') := by
  simp only [textareaProps, textareaText_like alike]
  exact (alike.insert _ .undefined).insert _ (.string _)

theorem optionText_like (alike : Fields.Like (Value.Like standsFor) props props')
    : optionText props = optionText props' := by
  have children := alike.get? "children"
  simp only [optionText]
  generalize Fields.get? props "children" = value, Fields.get? props' "children" = other
    at children ⊢
  cases children with
  | none => rfl
  | some like => exact like.flatText

theorem optionValue_like (alike : Fields.Like (Value.Like standsFor) props props')
    : optionValue props = optionValue props' := by
  have given := alike.present? "value"
  simp only [optionValue, optionText_like alike]
  generalize (Fields.get? props "value").bind Value.present? = value,
    (Fields.get? props' "value").bind Value.present? = other at given ⊢
  cases given with
  | none => rfl
  | some like => exact like.text

theorem selects_like (like : Value.Like standsFor value other) (option : String)
    : selects value option = selects other option := by
  have text := like.text
  cases like with
  | array inside =>
      clear text
      induction inside with
      | nil => rfl
      | cons first _ ih =>
          simp only [selects, List.any_cons, first.text] at ih ⊢
          rw [ih]
  | _ => simp only [selects, text]

theorem optionSelected_like {selection selection' : Option Value}
    (selections : Option.Rel (Value.Like standsFor) selection selection')
    (alike : Fields.Like (Value.Like standsFor) props props')
    : optionSelected selection props = optionSelected selection' props' := by
  cases selections with
  | none => rfl
  | some like =>
      simp only [optionSelected, Option.bind_some, Value.present?, like.isNullish]
      cases Value.isNullish _ with
      | false => simp only [Bool.false_eq_true, if_false, optionValue_like alike, selects_like like]
      | true => rfl

theorem optionProps_like {selection selection' : Option Value}
    (selections : Option.Rel (Value.Like standsFor) selection selection')
    (alike : Fields.Like (Value.Like standsFor) props props')
    : Fields.Like (Value.Like standsFor) (optionProps selection props)
        (optionProps selection' props') := by
  have first
      : Fields.Like (Value.Like standsFor) [("selected", .undefined), ("children", .undefined)]
          [("selected", .undefined), ("children", .undefined)] :=
    .cons (.of .undefined) (.cons (.of .undefined) .nil)
  have selected
      : Value.Like standsFor (optionSelected selection props)
          (optionSelected selection' props') := by
    rw [optionSelected_like selections alike]
    simp only [optionSelected]
    split
    · exact .bool _
    · exact .null
  simp only [optionProps, optionText_like alike]
  exact ((first.insertAll alike).insert _ selected).insert _ (.string _)

end FormControl

-----------------------------------------------------------------------------------------
-- Elements of a template
-----------------------------------------------------------------------------------------

namespace ElementGraph

variable {serial : Nat} {components : List (Nat × Component)} {values values' : List Value}

theorem elementOf_like (alike : Value.AllLike standsFor values values') (node : Node)
    {children children' : List Value} (inside : Value.AllLike standsFor children children')
    : Value.Like standsFor (.element (elementOf ⟨serial, components, values⟩ node children))
        (.element (elementOf ⟨serial, components, values'⟩ node children')) := by
  obtain ⟨key, references, rest⟩ := splitIdentity_like (node.props_like alike)
  simp only [elementOf, key]
  refine .element references ?_
  cases inside with
  | nil => exact rest
  | cons first others => exact rest.insert _ (.ofChildren (.cons first others))

mutual

/-- A child made into a value, by induction on the child. -/
theorem childValue_like (alike : Value.AllLike standsFor values values')
    : ∀ child,
        Value.Like standsFor (childValue ⟨serial, components, values⟩ child)
          (childValue ⟨serial, components, values'⟩ child)
  | .text text => .string text
  | .slot slot => alike.getD slot
  | .branch node children => elementOf_like alike node (childValues_like alike children)

theorem childValues_like (alike : Value.AllLike standsFor values values')
    : ∀ children,
        Value.AllLike standsFor (childValues ⟨serial, components, values⟩ children)
          (childValues ⟨serial, components, values'⟩ children)
  | [] => .nil
  | child :: rest => .cons (childValue_like alike child) (childValues_like alike rest)

end

/-- The elements of one template with values that are alike. -/
theorem build_like (alike : Value.AllLike standsFor values values') (tree : Tree)
    : Value.Like standsFor (build tree ⟨serial, components, values⟩)
        (build tree ⟨serial, components, values'⟩) := by
  have roots := @childValues_like _ serial components _ _ alike tree.roots
  simp only [build]
  generalize childValues ⟨serial, components, values⟩ tree.roots = children,
    childValues ⟨serial, components, values'⟩ tree.roots = children' at roots ⊢
  cases roots with
  | nil => exact .null
  | cons first rest =>
      cases rest with
      | nil => exact first
      | cons second others =>
          exact .element .none (.cons (.of (.array (.cons first (.cons second others)))) .nil)

end ElementGraph

end TaggedMarkup
