import TaggedMarkup.Proofs.Rendering.Contents
import TaggedMarkup.Proofs.Rendering.Openings

/-! An input is written with its type first, with a value and a check that fall back to their
defaults, and with its other properties in order. The property table keeps the defaults out of the
markup, and an input with `is` does not ask the table.
-/

namespace TaggedMarkup

namespace WrittenAttribute

variable {custom : Bool} {props : List (String × Value)} {attributes : List (String × String)}

/-- The attributes of some names are what the properties of these names become, if the property
table leads from no name among them to another and from no other to them.
-/
theorem ofProps_keep {keep : String → Bool}
    (kept : ∀ property ∈ Html.properties, keep property.written = keep property.name)
    (written : ofProps props custom = .ok (attributes.map Piece.ofAttribute))
    : ofProps (props.filter fun field => keep field.1) custom
      = .ok ((attributes.filter fun given => keep given.1).map Piece.ofAttribute) := by
  induction props generalizing attributes with
  | nil =>
      obtain rfl := List.map_eq_nil_iff.mp (Except.ok.inj written).symm
      rfl
  | cons field rest ih =>
      obtain ⟨name, value⟩ := field
      obtain ⟨first, others, isFirst, isOthers, all⟩ := ofProps_cons written
      cases first with
      | none =>
          have later := ih (isOthers.trans (congrArg Except.ok all))
          cases isKept : keep name with
          | false => simpa [isKept] using later
          | true => simp [isKept, ofProps, isFirst, later, bind, Except.bind]
      | some piece =>
          cases attributes with
          | nil => cases all
          | cons given attributes =>
              obtain ⟨rfl, rfl⟩ := List.cons.inj all
              have later := ih isOthers
              have same : keep given.1 = keep name := by
                rcases name_of_ofProp? isFirst with rfl | ⟨property, listed, rfl, isName⟩
                · rfl
                · rw [← kept property listed, isName]
              cases isKept : keep name with
              | false => simpa [isKept, same] using later
              | true => simp [isKept, same, ofProps, isFirst, later, bind, Except.bind]

theorem ofProperty?_undefined (name : String) : ofProperty? name .undefined custom = none := by
  cases custom with
  | true => simp only [ofProperty?, if_true, custom?]; split <;> rfl
  | false => simp [ofProperty?, standard?, isDropped]

end WrittenAttribute

-----------------------------------------------------------------------------------------
-- Properties of an input
-----------------------------------------------------------------------------------------

namespace FormControl

variable {props : Props}

/-- The first of several properties that is not null. -/
def firstOf? (props : Props) (names : List String) : Option Value :=
  (names.filterMap fun name => (Fields.get? props name).bind Value.present?).head?

theorem firstPresent_eq (props : Props) (first second : String)
    : firstPresent props first second = (firstOf? props [first, second]).getD .undefined := by
  simp only [firstPresent, firstOf?, List.filterMap_cons, List.filterMap_nil]
  cases (Fields.get? props first).bind Value.present? with
  | some value => rfl
  | none => cases (Fields.get? props second).bind Value.present? <;> rfl

theorem distinct_inputProps (props : Props) : (Fields.names (inputProps props)).Nodup := by
  have merged := Fields.distinct_ofEntries (("type", Value.undefined) :: props)
  have valued := Fields.distinct_insert merged "value" (firstPresent props "value" "defaultValue")
  exact Fields.distinct_insert valued "checked" (firstPresent props "checked" "defaultChecked")

theorem get?_inputProps_type (distinct : (Fields.names props).Nodup)
    : Fields.get? (inputProps props) "type"
      = some ((Fields.get? props "type").getD .undefined) := by
  rw [inputProps, Fields.get?_insert, if_neg (by decide), Fields.get?_insert, if_neg (by decide),
    Fields.get?_insertAll, Fields.get?_reverse distinct]
  cases Fields.get? props "type" <;> rfl

/-- The type comes first, and no other property has its name. -/
theorem inputProps_eq (distinct : (Fields.names props).Nodup)
    : ∃ others,
        inputProps props = ("type", (Fields.get? props "type").getD .undefined) :: others
        ∧ "type" ∉ Fields.names others := by
  obtain ⟨last, merged, isMerged⟩ := Fields.insertAll_cons "type" Value.undefined [] props
  obtain ⟨value, others, isProps⟩
      : ∃ value others, inputProps props = ("type", value) :: others := by
    simp [inputProps, isMerged, Fields.insert]
  have isType := get?_inputProps_type distinct
  rw [isProps, Fields.get?, if_pos rfl] at isType
  obtain rfl := Option.some.inj isType
  have names := distinct_inputProps props
  rw [isProps] at names
  exact ⟨others, isProps, (List.nodup_cons.mp names).1⟩

/-- Apart from the type, the value and the check the properties stay as they are. -/
theorem inputProps_others (distinct : (Fields.names props).Nodup) {keep : String → Bool}
    (apart : keep "type" = false ∧ keep "value" = false ∧ keep "checked" = false)
    : (inputProps props).filter (fun field => keep field.1)
      = props.filter fun field => keep field.1 := by
  obtain ⟨noType, noValue, noCheck⟩ := apart
  have kept : (Fields.names (props.filter fun field => keep field.1)).Nodup :=
    List.Nodup.sublist (List.filter_sublist.map Prod.fst) distinct
  rw [inputProps, Fields.filter_insert _ keep, noCheck, Fields.filter_insert _ keep, noValue,
    Fields.filter_insertAll _ _ keep]
  have fresh : [("type", Value.undefined)].filter (fun field => keep field.1) = [] := by
    simp [noType]
  rw [fresh]
  exact Fields.ofEntries_distinct kept

theorem get?_inputProps_value (props : Props)
    : Fields.get? (inputProps props) "value"
      = some ((firstOf? props ["value", "defaultValue"]).getD .undefined) := by
  rw [inputProps, Fields.get?_insert, if_neg (by decide), Fields.get?_insert, if_pos rfl,
    firstPresent_eq]

theorem get?_inputProps_checked (props : Props)
    : Fields.get? (inputProps props) "checked"
      = some ((firstOf? props ["checked", "defaultChecked"]).getD .undefined) := by
  rw [inputProps, Fields.get?_insert, if_pos rfl, firstPresent_eq]

theorem contains_inputProps (props : Props)
    : Fields.contains (inputProps props) "is" = Fields.contains props "is" := by
  rw [inputProps, Fields.contains_insert, Fields.contains_insert, Fields.contains_insertAll]
  simp [Fields.contains]

/-- The properties that are not written anew keep their values. -/
theorem get?_inputProps (distinct : (Fields.names props).Nodup) {name : String}
    (apart : name ∉ ["type", "value", "checked"])
    : Fields.get? (inputProps props) name = Fields.get? props name := by
  simp only [List.mem_cons, List.not_mem_nil, or_false, not_or] at apart
  obtain ⟨noType, noValue, noCheck⟩ := apart
  rw [inputProps, Fields.get?_insert, if_neg (Ne.symm noCheck), Fields.get?_insert,
    if_neg (Ne.symm noValue), Fields.get?_insertAll, Fields.get?_reverse distinct]
  simp [Fields.get?, Ne.symm noType]

end FormControl

-----------------------------------------------------------------------------------------
-- Attributes of an input
-----------------------------------------------------------------------------------------

/-- The properties that an input reads. -/
def FormControl.inputNames : List String :=
  ["type", "value", "checked", "defaultValue", "defaultChecked"]

namespace Html

/-- The property table has no other attribute for what an input reads, and no other property for
an attribute of these names.
-/
theorem properties_apart
    : ∀ property ∈ properties,
        property.written = property.name
        ∨ property.written ∉ FormControl.inputNames
          ∧ property.name ∉ FormControl.inputNames := by
  decide +kernel

theorem properties_own {name : String} (isRead : name ∈ FormControl.inputNames)
    : ∀ property ∈ properties, property.written = name ↔ property.name = name := by
  intro property listed
  rcases properties_apart property listed with same | ⟨notWritten, notNamed⟩
  · rw [same]
  · constructor
    · rintro rfl
      exact absurd isRead notWritten
    · rintro rfl
      exact absurd isRead notNamed

end Html

/-- Whether an element that does not ask the property table writes the value. -/
def Value.hasText : Value → Bool
  | .undefined | .null | .function _ | .symbol _ => false
  | _ => true

namespace WrittenAttribute

variable {custom : Bool} {props : Props} {attributes : List (String × String)} {name : String}

/-- The attributes of a name. -/
def named (name : String) (attributes : List (String × String)) : List Piece :=
  (attributes.filter fun given => given.1 == name).map Piece.ofAttribute

theorem exists_mem_iff : (∃ body, (name, body) ∈ attributes) ↔ named name attributes ≠ [] := by
  rw [named, Ne, List.map_eq_nil_iff, List.filter_eq_nil_iff]
  constructor
  · rintro ⟨body, member⟩ none
    exact none _ member (beq_self_eq_true name)
  · intro some
    by_contra none
    refine some ?_
    rintro ⟨other, body⟩ member isName
    obtain rfl : other = name := eq_of_beq isName
    exact none ⟨body, member⟩

/-- A property that an input reads has the attribute of its name. -/
theorem named_eq (isRead : name ∈ FormControl.inputNames)
    (plain : isContentOrIdentity name = false) (unstyled : name ≠ "style")
    (distinct : (Fields.names props).Nodup)
    (written : ofProps props custom = .ok (attributes.map Piece.ofAttribute))
    : named name attributes
      = ((Fields.get? props name).bind fun value => ofProperty? name value custom).toList := by
  have own (property : Html.Property) (listed : property ∈ Html.properties)
      : (property.written == name) = (property.name == name) := by
    rw [Bool.eq_iff_iff, beq_iff_eq, beq_iff_eq]
    exact Html.properties_own isRead property listed
  have becomes := @ofProps_keep _ _ _ (· == name) own written
  rw [Fields.filter_name distinct] at becomes
  cases isGiven : Fields.get? props name with
  | none =>
      rw [isGiven] at becomes
      exact (Except.ok.inj becomes).symm
  | some value =>
      rw [isGiven] at becomes
      have single : ofProps [(name, value)] custom = .ok (named name attributes) := becomes
      rw [ofProps_single, ofProp?, plain] at single
      simp only [Bool.false_eq_true, if_false, if_neg unstyled] at single
      exact (Except.ok.inj single).symm

/-- Where the first property is the only one of its name, its attribute can only be the first. -/
theorem position_eq_zero (isRead : name ∈ FormControl.inputNames) {value : Value}
    (apart : name ∉ Fields.names props)
    (written
      : ofProps ((name, value) :: props) custom = .ok (attributes.map Piece.ofAttribute))
    : ∀ position body, attributes[position]? = some (name, body) → position = 0 := by
  intro position body isHere
  obtain ⟨first, others, -, isOthers, all⟩ := ofProps_cons written
  have nowhere (rest : List (String × String)) (same : others = rest.map Piece.ofAttribute)
      : (name, body) ∉ rest := by
    intro member
    have isPiece : .attribute name body ∈ others := same ▸ List.mem_map_of_mem member
    have own := fun property listed => (Html.properties_own isRead property listed).mp
    obtain ⟨value, isField, -⟩ := mem_ofProps_own own isOthers isPiece
    exact apart (List.mem_map_of_mem isField)
  cases first with
  | none => exact absurd (List.mem_of_getElem? isHere) (nowhere attributes all)
  | some piece =>
      cases attributes with
      | nil => cases all
      | cons given rest =>
          cases position with
          | zero => rfl
          | succ position =>
              have isLater : rest[position]? = some (name, body) := isHere
              have apart := nowhere rest (List.cons.inj all).2
              exact absurd (List.mem_of_getElem? isLater) apart

/-- The property table reserves the defaults, and an element with `is` writes what has a text. -/
theorem ofProperty?_default (isDefault : name ∈ ["defaultValue", "defaultChecked"])
    (value : Value)
    : (ofProperty? name value custom).isSome = (custom && value.hasText) := by
  have listed : Html.property? name = some ⟨name, name, .reserved⟩ := by
    revert name
    decide +kernel
  have safe : (Html.isReservedOnCustom name || !Html.isSafeName name) = false := by
    revert name
    decide +kernel
  cases custom with
  | false => simp [ofProperty?, standard?, listed, Html.isIgnored]
  | true =>
      simp only [ofProperty?, custom?, safe, Bool.false_eq_true, if_true, if_false,
        Bool.true_and]
      cases value <;> rfl

end WrittenAttribute

namespace FormControl

open WrittenAttribute

/-- A default of an input is written: the input has `is`, and the default has a text. -/
def WritesDefault (props : Props) : Prop :=
  Fields.contains props "is" = true
  ∧ ∃ name ∈ ["defaultValue", "defaultChecked"],
      ∃ value, Fields.get? props name = some value ∧ value.hasText = true

/-- What the open tag of an input says about its properties. -/
structure InputWritten (props : Props) (attributes : List (String × String)) : Prop where
  value
    : named "value" attributes
      = ((firstOf? props ["value", "defaultValue"]).bind fun value =>
          ofProperty? "value" value (Fields.contains props "is")).toList
  checked
    : named "checked" attributes
      = ((firstOf? props ["checked", "defaultChecked"]).bind fun value =>
          ofProperty? "checked" value (Fields.contains props "is")).toList
  type
    : named "type" attributes
      = ((Fields.get? props "type").bind fun value =>
          ofProperty? "type" value (Fields.contains props "is")).toList
  /-- The type comes before every other attribute. -/
  first : ∀ position body, attributes[position]? = some ("type", body) → position = 0
  /-- The other properties are written in their order. -/
  others
    : let isOther (name : String) := !inputNames.contains name
      ofProps (props.filter fun field => isOther field.1) (Fields.contains props "is")
      = .ok ((attributes.filter fun given => isOther given.1).map Piece.ofAttribute)
  defaults
    : (∃ name ∈ ["defaultValue", "defaultChecked"], ∃ body, (name, body) ∈ attributes)
      ↔ WritesDefault props

/-- What an input is written with, when its properties have different names. -/
theorem inputWritten {props : Props} (distinct : (Fields.names props).Nodup)
    {attributes : List (String × String)}
    (written
      : ofProps (inputProps props) (Fields.contains props "is")
        = .ok (attributes.map Piece.ofAttribute))
    : InputWritten props attributes := by
  have names := distinct_inputProps props
  have present (found : Option Value) (name : String)
      : ((some (found.getD .undefined)).bind fun value =>
            ofProperty? name value (Fields.contains props "is"))
        = found.bind fun value => ofProperty? name value (Fields.contains props "is") := by
    cases found with
    | none => exact ofProperty?_undefined name
    | some value => rfl
  have isDefault (name : String) (member : name ∈ ["defaultValue", "defaultChecked"])
      : named name attributes
        = ((Fields.get? props name).bind fun value =>
            ofProperty? name value (Fields.contains props "is")).toList := by
    simp only [List.mem_cons, List.not_mem_nil, or_false] at member
    obtain rfl | rfl := member
    · rw [named_eq (by decide) rfl (by decide) names written,
        get?_inputProps distinct (by decide)]
    · rw [named_eq (by decide) rfl (by decide) names written,
        get?_inputProps distinct (by decide)]
  constructor
  · rw [named_eq (by decide) rfl (by decide) names written, get?_inputProps_value, present]
  · rw [named_eq (by decide) rfl (by decide) names written, get?_inputProps_checked,
      present]
  · rw [named_eq (by decide) rfl (by decide) names written,
      get?_inputProps_type distinct, present]
  · obtain ⟨others, isProps, apart⟩ := inputProps_eq distinct
    rw [isProps] at written
    exact position_eq_zero (by decide) apart written
  · intro isOther
    rw [← inputProps_others distinct (by decide)]
    refine ofProps_keep (fun property listed => ?_) written
    rcases Html.properties_apart property listed with same | ⟨notWritten, notNamed⟩
    · rw [same]
    · simp [isOther, notWritten, notNamed]
  · have isWritten (name : String) (member : name ∈ ["defaultValue", "defaultChecked"])
        : (∃ body, (name, body) ∈ attributes)
          ↔ Fields.contains props "is" = true
            ∧ ∃ value, Fields.get? props name = some value ∧ value.hasText = true := by
      rw [exists_mem_iff, isDefault name member]
      cases Fields.get? props name with
      | none => simp
      | some value =>
          simpa [Option.isSome_iff_ne_none] using
            Bool.eq_iff_iff.mp (@ofProperty?_default (Fields.contains props "is") _ member value)
    constructor
    · rintro ⟨name, member, isThere⟩
      obtain ⟨isCustom, given⟩ := (isWritten name member).mp isThere
      exact ⟨isCustom, name, member, given⟩
    · rintro ⟨isCustom, name, member, given⟩
      exact ⟨name, member, (isWritten name member).mpr ⟨isCustom, given⟩⟩

end FormControl

namespace Render

-----------------------------------------------------------------------------------------
-- Places of inputs
-----------------------------------------------------------------------------------------

variable {cx : RenderSettings} {paired : Prop} {place : Place} {subjects : List Subject}
  {props : Props}

/-- The properties of a node have different names. -/
theorem Subject.distinct_element {subject : Subject} {tag : String}
    (isElement : subject.element? = some (tag, props))
    (given : ∀ own, subject = .host tag own → (Fields.names own).Nodup)
    : (Fields.names props).Nodup := by
  cases subject with
  | value | component => cases isElement
  | host other own =>
      obtain ⟨rfl, rfl⟩ := Prod.mk.inj (Option.some.inj isElement)
      exact given own rfl
  | node markup top leadNewline child =>
      cases child with
      | text | slot => cases isElement
      | branch opened nested =>
          obtain ⟨other, -, same⟩ := Option.map_eq_some_iff.mp isElement
          obtain ⟨rfl, rfl⟩ := Prod.mk.inj same
          rw [Slots.nodeProps_eq]
          exact Node.distinct_elementProps _ _ _

/-- What is rendered at the place of an input begins with its open tag. -/
theorem Place.opens_input
    (made
      : Rendering cx paired (stepsOf cx.host place.around place.subject) subjects place.start
          place.finish)
    (isInput : place.subject.element? = some ("input", props))
    (distinct : (Fields.names props).Nodup)
    : ∃ attributes,
        place.Opens "input" attributes ∧ FormControl.InputWritten props attributes := by
  rw [stepsOf_control _ _ isInput rfl] at made
  have made : Rendering cx paired (Step.element "input" (FormControl.inputProps props) [])
      subjects place.start place.finish := made
  obtain ⟨attributes, written, opens⟩ := Place.opens_element made
  have isCustom
      : (Html.isCustomTag "input" || Fields.contains (FormControl.inputProps props) "is")
        = Fields.contains props "is" :=
    FormControl.contains_inputProps props
  rw [isCustom] at written
  exact ⟨attributes, opens, FormControl.inputWritten distinct written⟩

/-- Wherever an input is rendered, from a template or from an element whose properties have
different names, its open tag has the value and the check that are given or fall back to their
defaults, the type in front, and its other properties in order. A default itself is written if and
only if the input has `is` and the default has a text.
-/
theorem renderValue_inputs
    (keeps : cx.host.Keeps (Value.Among (Compiled.Fit cx.settings)) fun _ => True) {value : Value}
    (fit : Value.Among (Compiled.Fit cx.settings) value) (remaining : Nat)
    {before reached : RenderState}
    (ready : Ready cx (Value.Among (Compiled.Fit cx.settings)) before)
    (rendered : renderValue cx (invoke cx remaining) value before = (.ok (), reached))
    (outer : Option Props)
    : let steps : List Step := [.inside (before.around cx.host) (.value value)]
      (∃ places,
        Traced cx cx.settings.LeavesSelections outer steps places before.progress
          reached.progress)
      ∧ ∀ places,
          Traced cx cx.settings.LeavesSelections outer steps places before.progress
            reached.progress
          → ∀ place ∈ places, ∀ props,
            place.subject.element? = some ("input", props)
            → (∀ own, place.subject = .host "input" own → (Fields.names own).Nodup)
            → ∃ attributes,
                place.Opens "input" attributes ∧ FormControl.InputWritten props attributes := by
  intro steps
  refine ⟨traced_render keeps fit remaining ready rendered outer, ?_⟩
  intro places traced place member props isInput given
  obtain ⟨_, made⟩ := traced.made place member
  exact Place.opens_input made isInput (Subject.distinct_element isInput given)

/-- A box that is checked by its default, with a type that comes last among its properties. -/
theorem renderValue_inputs_checked
    : let cx : RenderSettings := { settings := {}, options := {}, host := .children }
      let props : Props :=
        [("name", .string "n"), ("checked", .null), ("defaultChecked", .bool true),
          ("defaultValue", .string "a"), ("type", .string "checkbox")]
      let value : Value := .element ⟨0, none, .host "input", none, none, props⟩
      let before : RenderState := { store := {} }
      let markup :=
        "<input type=\"checkbox\" name=\"n\" checked=\"\" value=\"a\" data-reactroot=\"\"/>"
      ∃ reached places,
        renderValue cx (invoke cx 1) value before = (.ok (), reached)
        ∧ Piece.renderAll reached.output.toList = markup
        ∧ Traced cx cx.settings.LeavesSelections none
            [.inside (before.around cx.host) (.value value)] places before.progress
            reached.progress
        ∧ (Fields.names props).Nodup
        ∧ ∀ place ∈ places,
            place.subject = .host "input" props
            → ∃ attributes,
                place.Opens "input" attributes ∧ FormControl.InputWritten props attributes := by
  intro cx props value before markup
  have keeps : cx.host.Keeps (Value.Among (Compiled.Fit cx.settings)) fun _ => True :=
    Host.keeps_children .undefined
  have fit : Value.Among (Compiled.Fit cx.settings) value :=
    .element (by simpa [props] using ⟨.string "n", .null, .bool true, .string "a", .string _⟩)
      (by simp)
  have ready : Ready cx (Value.Among (Compiled.Fit cx.settings)) before :=
    .start (fun _ _ read => read) _
  have checked
      : (renderValue cx (invoke cx 1) value before).1 = .ok ()
        ∧ Piece.renderAll (renderValue cx (invoke cx 1) value before).2.output.toList
          = markup := by
    decide +kernel
  obtain ⟨reached, outcome, writes⟩ :=
    exists_of_apply (fun reached => Piece.renderAll reached.output.toList) checked
  obtain ⟨⟨places, traced⟩, all⟩ :=
    @renderValue_inputs cx keeps value fit 1 before reached ready outcome none
  refine ⟨reached, places, outcome, writes, traced, by decide, ?_⟩
  intro place member isHere
  refine all places traced place member props (congrArg Subject.element? isHere) ?_
  intro own isOwn
  obtain ⟨-, rfl⟩ := Subject.host.inj (isHere.symm.trans isOwn)
  decide

end Render

namespace Engine

/-- With `is` an input is written with its value, with its check and with both defaults. -/
theorem input_default_written
    : let engine := Engine.ofOptions {}
      let host := Host.constant fun _ => .undefined
      let template : Template := ⟨0, ["<input is=x defaultValue=a defaultChecked />"]⟩
      let markup :=
        "<input is=\"x\" defaultValue=\"a\" defaultChecked=\"true\" value=\"a\" checked=\"true\" "
        ++ "data-reactroot=\"\"/>"
      (engine.render host false template []).1 = .ok markup
      ∧ engine.renderElements host false template [] = .ok markup := by
  decide +kernel

end Engine

end TaggedMarkup
