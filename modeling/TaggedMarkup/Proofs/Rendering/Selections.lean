import TaggedMarkup.Proofs.Rendering.Contents
import TaggedMarkup.Proofs.Rendering.Openings

/-! An option is marked if and only if the innermost selection around it chooses it, however far
apart the two are rendered.
-/

namespace TaggedMarkup

-----------------------------------------------------------------------------------------
-- Choices
-----------------------------------------------------------------------------------------

mutual

/-- The values in a value, where arrays are replaced with their items. -/
def Value.flattened : Value → List Value
  | .array items => flattenedItems items
  | value => [value]

def Value.flattenedItems : List Value → List Value
  | [] => []
  | item :: rest => item.flattened ++ flattenedItems rest

end

/-- The text of a string or a number. -/
def Value.leafText? : Value → Option String
  | .string text => some text
  | .number value => some value.text
  | _ => none

namespace Choice

/-- The value of a selection, which is the first of two that is not null. -/
def value? (selection : Props) : Option Value :=
  (["value", "defaultValue"].filterMap fun name =>
    (Fields.get? selection name).bind Value.present?).head?

/-- The texts that a value of a selection chooses. -/
def texts : Value → List String
  | .array items => items.map Value.text
  | value => [value.text]

/-- The text that an option stands for: that of its value, or the strings and numbers in its
children.
-/
def text (option : Props) : String :=
  match (Fields.get? option "value").bind Value.present? with
  | some value => value.text
  | none =>
      match Fields.get? option "children" with
      | some children => String.join (children.flattened.filterMap Value.leafText?)
      | none => ""

end Choice

/-- Whether a selection chooses an option. -/
def Chooses (selection option : Props) : Prop :=
  ∃ value, Choice.value? selection = some value ∧ Choice.text option ∈ Choice.texts value

mutual

/-- The text in a value is that of its parts, by induction on the value. -/
theorem flatText_eq
    : ∀ value : Value,
        FormControl.flatText value = String.join (value.flattened.filterMap Value.leafText?)
  | .string text => by simp [FormControl.flatText, Value.flattened, Value.leafText?]
  | .number number => by simp [FormControl.flatText, Value.flattened, Value.leafText?]
  | .array items => by
      simp only [FormControl.flatText, Value.flattened, flatTexts_eq items]
  | .undefined | .null | .bool _ | .object _ | .element _ | .markup _ | .function _
  | .symbol _ => by
      simp [FormControl.flatText, Value.flattened, List.filterMap_cons, Value.leafText?]

theorem flatTexts_eq
    : ∀ items : List Value,
        FormControl.flatTexts items
        = String.join ((Value.flattenedItems items).filterMap Value.leafText?)
  | [] => rfl
  | item :: rest => by
      simp only [FormControl.flatTexts, Value.flattenedItems, List.filterMap_append,
        String.join_append, flatText_eq item, flatTexts_eq rest]

end

namespace FormControl

variable {selection : Option Value} {props : Props} {outer : Props}

theorem optionValue_eq (props : Props) : optionValue props = Choice.text props := by
  cases own : (Fields.get? props "value").bind Value.present? with
  | some value => simp only [optionValue, Choice.text, own]
  | none =>
      cases inside : Fields.get? props "children" with
      | some children => simp only [optionValue, optionText, Choice.text, own, inside, flatText_eq]
      | none => simp only [optionValue, optionText, Choice.text, own, inside]

theorem selects_iff (value : Value) (text : String)
    : selects value text = true ↔ text ∈ Choice.texts value := by
  cases value with
  | array items => simp [selects, Choice.texts]
  | _ => simp only [selects, Choice.texts, List.mem_singleton, beq_iff_eq, @eq_comm _ text]

/-- The value of a selection is the one that is chosen with, if it has any. -/
theorem present?_selectValue (props : Props)
    : (selectValue props).present? = Choice.value? props := by
  have present (found : Option Value)
      : ((found.bind Value.present?).getD .undefined).present? = found.bind Value.present? := by
    cases found with
    | none => rfl
    | some value => cases value <;> rfl
  simp only [selectValue, firstPresent, Choice.value?, List.filterMap_cons, List.filterMap_nil]
  cases first : (Fields.get? props "value").bind Value.present? with
  | some value =>
      have isPresent := present (Fields.get? props "value")
      rw [first] at isPresent
      exact isPresent
  | none =>
      rw [Option.none_or, present]
      cases (Fields.get? props "defaultValue").bind Value.present? <;> rfl

/-- An option in a selection is marked if it is chosen, and else its mark is false or missing. -/
theorem optionSelected_inside (selection option : Props)
    : (Chooses selection option
        ∧ optionSelected (some (selectValue selection)) option = .bool true)
      ∨ (¬Chooses selection option
        ∧ optionSelected (some (selectValue selection)) option ∈ [.bool false, .null]) := by
  simp only [optionSelected, Option.bind_some, present?_selectValue, optionValue_eq, Chooses]
  cases Choice.value? selection with
  | none => exact .inr ⟨by simp, by simp⟩
  | some value =>
      cases isMatch : selects value (Choice.text option) with
      | true =>
          exact .inl ⟨⟨value, rfl, (selects_iff ..).mp isMatch⟩, congrArg Value.bool isMatch⟩
      | false =>
          refine .inr ⟨?_, by simp [isMatch]⟩
          rintro ⟨other, same, member⟩
          obtain rfl := Option.some.inj same
          exact absurd (isMatch.symm.trans ((selects_iff ..).mpr member)) Bool.false_ne_true

/-- The mark of an option comes first among its properties, and no other has its name. -/
theorem optionProps_eq (selection : Option Value) (props : Props)
    : ∃ others,
        optionProps selection props = ("selected", optionSelected selection props) :: others
        ∧ "selected" ∉ Fields.names others := by
  have all (entries : Props) (mark : Value) (others : Props)
      (apart : "selected" ∉ Fields.names others)
      : ∃ last others',
          Fields.insertAll (("selected", mark) :: others) entries = ("selected", last) :: others'
          ∧ "selected" ∉ Fields.names others' := by
    induction entries generalizing mark others with
    | nil => exact ⟨mark, others, rfl, apart⟩
    | cons entry rest ih =>
        obtain ⟨name, value⟩ := entry
        rw [Fields.insertAll, List.foldl_cons, Fields.insert]
        split
        next same =>
            obtain rfl := same
            exact ih value others apart
        next differs =>
            refine ih mark (Fields.insert others name value) ?_
            rw [Fields.names_insert]
            split
            · exact apart
            · simpa [apart] using differs
  obtain ⟨mark, others, inserted, apart⟩ :=
    all props .undefined [("children", .undefined)] (by decide)
  refine ⟨Fields.insert others "children" (.string (optionText props)), ?_, ?_⟩
  · simp [optionProps, inserted, Fields.insert]
  · rw [Fields.names_insert]
    split
    · exact apart
    · simpa using apart

theorem contains_optionProps (selection : Option Value) (props : Props)
    : Fields.contains (optionProps selection props) "is" = Fields.contains props "is" := by
  rw [optionProps, Fields.contains_insert, Fields.contains_insert, Fields.contains_insertAll]
  simp [Fields.contains]

/-- The mark of an option replaces the one that it has itself. -/
theorem optionProps_erase (selection : Option Value) (props : Props)
    : optionProps selection (Fields.erase props "selected") = optionProps selection props := by
  have others (name : String) (differs : "selected" ≠ name)
      : Fields.get? (Fields.erase props "selected") name = Fields.get? props name := by
    rw [Fields.get?_erase, if_neg differs]
  have text : optionText (Fields.erase props "selected") = optionText props := by
    simp only [optionText, others "children" (by decide)]
  have mark
      : optionSelected selection (Fields.erase props "selected")
        = optionSelected selection props := by
    simp only [optionSelected, optionValue, others "value" (by decide), text]
  have written (entries : Props) :=
    @Fields.insert_insertAll_erase _ [("selected", .undefined), ("children", .undefined)]
      "selected" (optionSelected selection props) entries (by decide)
  simp only [optionProps, mark, text, written, Fields.erase_erase]

end FormControl

-----------------------------------------------------------------------------------------
-- Marks
-----------------------------------------------------------------------------------------

namespace WrittenAttribute

variable {custom : Bool} {props : Props} {attributes : List (String × String)} {body : String}

/-- What is written under the name of a mark comes from the property of its name. -/
theorem mem_selected (written : ofProps props custom = .ok (attributes.map Piece.ofAttribute))
    (member : ("selected", body) ∈ attributes)
    : "selected" ∈ Fields.names props := by
  have isPiece : .attribute "selected" body ∈ attributes.map Piece.ofAttribute :=
    List.mem_map_of_mem member
  obtain ⟨value, isField, -⟩ := mem_ofProps_own (by decide +kernel) written isPiece
  exact List.mem_map_of_mem isField

theorem ofProp?_selected_null : ofProp? "selected" .null custom = .ok none := by
  cases custom <;> rfl

theorem ofProp?_selected (chosen : Bool)
    : ofProp? "selected" (.bool chosen) false
      = .ok (if chosen then some (.attribute "selected" "") else none) := by
  have listed : Html.property? "selected" = some ⟨"selected", "selected", .boolean⟩ := by
    decide +kernel
  simp only [ofProp?, ofProperty?, standard?, listed]
  cases chosen <;> rfl

/-- A mark that becomes nothing leaves no attribute of its name. -/
theorem unmarked {mark : Value} (apart : "selected" ∉ Fields.names props)
    (nothing : ofProp? "selected" mark custom = .ok none)
    (written
      : ofProps (("selected", mark) :: props) custom = .ok (attributes.map Piece.ofAttribute))
    : ("selected", body) ∉ attributes := by
  obtain ⟨first, others, isFirst, isOthers, all⟩ := ofProps_cons written
  obtain rfl := Except.ok.inj (nothing.symm.trans isFirst)
  exact fun member => apart (mem_selected (isOthers.trans (congrArg Except.ok all)) member)

/-- A mark that is true becomes the first attribute, and no other has its name. -/
theorem marked (apart : "selected" ∉ Fields.names props)
    (written
      : ofProps (("selected", .bool true) :: props) false
        = .ok (attributes.map Piece.ofAttribute))
    : ∃ others, attributes = ("selected", "") :: others ∧ ∀ body, ("selected", body) ∉ others := by
  obtain ⟨first, others, isFirst, isOthers, same⟩ := ofProps_cons written
  rw [ofProp?_selected, if_pos rfl] at isFirst
  obtain rfl := Except.ok.inj isFirst
  cases attributes with
  | nil => cases same
  | cons first rest =>
      obtain ⟨name, text⟩ := first
      obtain ⟨isMark, rfl⟩ := List.cons.inj same
      obtain ⟨rfl, rfl⟩ := Piece.attribute.inj isMark
      exact ⟨rest, rfl, fun body member => apart (mem_selected isOthers member)⟩

/-- A value that is taken away is not written. -/
theorem unvalued (distinct : (Fields.names props).Nodup)
    (written
      : ofProps (Fields.insert props "value" .undefined) custom
        = .ok (attributes.map Piece.ofAttribute))
    : ("value", body) ∉ attributes := by
  intro member
  have isPiece : .attribute "value" body ∈ attributes.map Piece.ofAttribute :=
    List.mem_map_of_mem member
  obtain ⟨value, isField, becomes⟩ := mem_ofProps_own (by decide +kernel) written isPiece
  obtain rfl := Fields.eq_of_mem_insert distinct isField
  cases custom <;> cases becomes

end WrittenAttribute

namespace Render

-----------------------------------------------------------------------------------------
-- Places of options and selections
-----------------------------------------------------------------------------------------

variable {cx : RenderSettings} {paired : Prop} {place : Place} {subjects : List Subject}
  {tag : String} {props : Props}

/-- What the open tag of an option says about the selection around it. -/
structure Place.Marked (place : Place) (option : Props) (attributes : List (String × String))
    : Prop where
  /-- An option in a selection has the mark as its first attribute if and only if the selection
  chooses it.
  -/
  first
    : ∀ selection,
        place.selection = some selection
        → Fields.contains option "is" = false
        → ((∃ others, attributes = ("selected", "") :: others) ↔ Chooses selection option)
  /-- It has no other mark. -/
  only
    : ∀ selection,
        place.selection = some selection
        → Fields.contains option "is" = false
        → ∀ position body,
            attributes[position]? = some ("selected", body) → position = 0 ∧ body = ""
  outside : place.selection = none → ∀ body, ("selected", body) ∉ attributes

/-- An option is written with a mark if the selection around its place chooses it. -/
theorem Place.opens_option
    (made
      : Rendering cx paired (stepsOf cx.host place.around place.subject) subjects place.start
          place.finish)
    (selects : place.around.selection = place.selection.map FormControl.selectValue)
    (isOption : place.subject.element? = some ("option", props))
    : ∃ attributes, place.Opens "option" attributes ∧ place.Marked props attributes := by
  rw [stepsOf_control _ _ isOption rfl] at made
  have made : Rendering cx paired
      (Step.element "option" (FormControl.optionProps place.around.selection props)
        (Step.texts (FormControl.optionText props)))
      subjects place.start place.finish := made
  obtain ⟨attributes, written, opens⟩ := Place.opens_element made
  obtain ⟨others, isProps, apart⟩ := FormControl.optionProps_eq place.around.selection props
  have isCustom
      : (Html.isCustomTag "option"
          || Fields.contains (FormControl.optionProps place.around.selection props) "is")
        = Fields.contains props "is" :=
    FormControl.contains_optionProps _ _
  rw [isCustom, isProps, selects] at written
  have inside (selection : Props) (isHere : place.selection = some selection)
      (plain : Fields.contains props "is" = false)
      : (Chooses selection props
          ∧ ∃ others,
              attributes = ("selected", "") :: others ∧ ∀ body, ("selected", body) ∉ others)
        ∨ (¬Chooses selection props ∧ ∀ body, ("selected", body) ∉ attributes) := by
    rw [isHere, plain] at written
    rcases FormControl.optionSelected_inside selection props with
      ⟨chosen, mark⟩ | ⟨notChosen, mark⟩
    · rw [Option.map_some, mark] at written
      exact .inl ⟨chosen, WrittenAttribute.marked apart written⟩
    · refine .inr ⟨notChosen, fun body => WrittenAttribute.unmarked apart ?_ written⟩
      rcases List.mem_cons.mp mark with isFalse | isNull
      · rw [Option.map_some, isFalse]
        exact WrittenAttribute.ofProp?_selected false
      · rw [Option.map_some, List.mem_singleton.mp isNull]
        exact WrittenAttribute.ofProp?_selected_null
  refine ⟨attributes, opens, ?_, ?_, ?_⟩
  · intro selection isHere plain
    rcases inside selection isHere plain with ⟨chosen, others, rfl, -⟩ | ⟨notChosen, unmarked⟩
    · exact iff_of_true ⟨others, rfl⟩ chosen
    · refine iff_of_false ?_ notChosen
      rintro ⟨others, rfl⟩
      exact unmarked "" (List.mem_cons_self ..)
  · intro selection isHere plain position body isMark
    rcases inside selection isHere plain with ⟨-, others, rfl, unmarked⟩ | ⟨-, unmarked⟩
    · cases position with
      | zero => exact ⟨rfl, (Prod.mk.inj (Option.some.inj isMark)).2.symm⟩
      | succ position => exact (unmarked body (List.mem_of_getElem? isMark)).elim
    · exact (unmarked body (List.mem_of_getElem? isMark)).elim
  · intro isHere body
    rw [isHere] at written
    exact WrittenAttribute.unmarked apart WrittenAttribute.ofProp?_selected_null written

/-- The beginning of a selection is its open tag, in which its value is not written. -/
theorem Place.opens_select
    (made
      : Rendering cx paired (stepsOf cx.host place.around place.subject) subjects place.start
          place.finish)
    (isSelect : place.subject.element? = some ("select", props))
    (distinct : (Fields.names props).Nodup)
    : ∃ attributes, place.Opens "select" attributes ∧ ∀ body, ("value", body) ∉ attributes := by
  obtain ⟨selection, around, subject, start, finish⟩ := place
  cases subject with
  | value | component => cases isSelect
  | host tag given =>
      obtain ⟨rfl, rfl⟩ := Prod.mk.inj (Option.some.inj isSelect)
      have made
          : Rendering cx paired
              (Step.element "select" (FormControl.selectProps given)
                (Step.optional (around.enter "select" given) (Fields.get? given "children")))
              subjects start finish :=
        made
      obtain ⟨attributes, written, opens⟩ :=
        @Place.opens_element _ _ ⟨selection, around, _, start, finish⟩ _ _ _ _ made
      exact ⟨attributes, opens, fun body => WrittenAttribute.unvalued distinct written⟩
  | node markup top leadNewline child =>
      cases child with
      | text | slot => cases isSelect
      | branch opened nested =>
          obtain ⟨tag, named, same⟩ := Option.map_eq_some_iff.mp isSelect
          obtain ⟨rfl, -⟩ := Prod.mk.inj same
          have isTag := Node.tag_of_elementName? named
          have own : (Fields.names (Step.ownProps markup opened)).Nodup :=
            opened.distinct_elementProps markup.values []
          simp only [stepsOf, Step.branch, isTag, Step.inline] at made
          obtain ⟨pieces, mark, middle, written, isMark, adds, made⟩ := made.openTag
          obtain ⟨attributes, rfl⟩ := WrittenAttribute.ofProps_attributes written
          refine ⟨attributes, ?_, fun body => WrittenAttribute.unvalued own written⟩
          cases isVoid : opened.isVoid with
          | true =>
              simp only [isVoid, if_true] at made
              exact Place.opens_of isMark rfl adds (made.given_void isVoid)
          | false =>
              simp only [isVoid, Bool.false_eq_true, if_false] at made
              exact Place.opens_of isMark rfl adds made

/-- Whatever is around an option, its own mark does not count. -/
theorem renderControl_option_erase (props : Props)
    : renderControl cx "option" (Fields.erase props "selected")
      = renderControl cx "option" props := by
  have text
      : FormControl.optionText (Fields.erase props "selected") = FormControl.optionText props := by
    rw [FormControl.optionText, Fields.get?_erase, if_neg (by decide)]
    rfl
  simp only [renderControl, FormControl.optionProps_erase, text]
  rfl

/-- Wherever an option without `is` is rendered, it has a mark, as its first attribute, if and only
if the innermost selection around its place has a value that chooses it; outside of all selections
no option has one. Its own mark never counts. A selection, whose properties have different names,
is written without its value.
-/
theorem renderValue_marks
    (keeps : cx.host.Keeps (Value.Among (Compiled.Fit cx.settings)) fun _ => True)
    (leaves : cx.settings.LeavesSelections) {value : Value}
    (fit : Value.Among (Compiled.Fit cx.settings) value) (remaining : Nat)
    {before reached : RenderState}
    (ready : Ready cx (Value.Among (Compiled.Fit cx.settings)) before) {outer : Option Props}
    (around : before.selections.head? = outer.map FormControl.selectValue)
    (rendered : renderValue cx (invoke cx remaining) value before = (.ok (), reached))
    : let steps : List Step := [.inside (before.around cx.host) (.value value)]
      (∃ places,
        Traced cx cx.settings.LeavesSelections outer steps places before.progress
          reached.progress)
      ∧ (∀ places,
          Traced cx cx.settings.LeavesSelections outer steps places before.progress
            reached.progress
          → ∀ place ∈ places, ∀ props,
            (place.subject.element? = some ("option", props)
              → ∃ attributes, place.Opens "option" attributes ∧ place.Marked props attributes)
            ∧ (place.subject.element? = some ("select", props)
              → (Fields.names props).Nodup
              → ∃ attributes,
                  place.Opens "select" attributes ∧ ∀ body, ("value", body) ∉ attributes))
      ∧ ∀ props,
          renderControl cx "option" (Fields.erase props "selected")
          = renderControl cx "option" props := by
  intro steps
  refine ⟨traced_render keeps fit remaining ready rendered outer, ?_, renderControl_option_erase⟩
  intro places traced place member props
  have first : ∀ step ∈ steps, step.SelectsBy (outer.map FormControl.selectValue) := by
    intro step member
    obtain rfl := List.mem_singleton.mp member
    exact around
  have selects := traced.selects leaves first place member
  obtain ⟨_, made⟩ := traced.made place member
  exact ⟨Place.opens_option made selects, Place.opens_select made⟩

/-- Options in a fragment and in a component in a selection of two values, and one outside. -/
theorem renderValue_marks_two
    : let cx : RenderSettings := { settings := {}, options := {}, host := .children }
      let option (props : Props) : Value := .element ⟨0, none, .host "option", none, none, props⟩
      let group : Value :=
        .element ⟨1, none, .fragment, none, none,
          [("children", .array [option [("value", .string "b")], option [("value", .string "c")]])]⟩
      let component : Value :=
        .element ⟨2, none, .component (.function 0), none, none,
          [("children",
            option [("children", .array [.string "1", .array [.number (.ofInt 2)], .null])])]⟩
      let selection : Value :=
        .element ⟨3, none, .host "select", none, none,
          [("value", .null), ("defaultValue", .array [.string "b", .number (.ofInt 12)]),
            ("children", .array [group, component])]⟩
      let value : Value :=
        .array [selection, option [("value", .string "b"), ("selected", .bool true)]]
      let before : RenderState := { store := {} }
      let markup :=
        "<select data-reactroot=\"\"><option selected=\"\" value=\"b\"></option>"
        ++ "<option value=\"c\"></option><option selected=\"\">12</option></select>"
        ++ "<option value=\"b\"></option>"
      ∃ reached places,
        renderValue cx (invoke cx 1) value before = (.ok (), reached)
        ∧ Piece.renderAll reached.output.toList = markup
        ∧ Traced cx cx.settings.LeavesSelections none
            [.inside (before.around cx.host) (.value value)] places before.progress
            reached.progress
        ∧ ∀ place ∈ places, ∀ props,
            place.subject.element? = some ("option", props)
            → ∃ attributes, place.Opens "option" attributes ∧ place.Marked props attributes := by
  intro cx option group component selection value before markup
  have keeps : cx.host.Keeps (Value.Among (Compiled.Fit cx.settings)) fun _ => True :=
    Host.keeps_children .undefined
  have isOption {props : Props}
      (inside : ∀ field ∈ props, Value.Among (Compiled.Fit cx.settings) field.2)
      : Value.Among (Compiled.Fit cx.settings) (option props) :=
    .element inside (by simp)
  have isValued (text : String)
      : Value.Among (Compiled.Fit cx.settings) (option [("value", .string text)]) :=
    isOption (by simpa using .string text)
  have isGroup : Value.Among (Compiled.Fit cx.settings) group :=
    .element (by simpa using .array (by simpa using ⟨isValued "b", isValued "c"⟩)) (by simp)
  have isText
      : Value.Among (Compiled.Fit cx.settings)
          (.array [.string "1", .array [.number (.ofInt 2)], .null]) :=
    .array (by simpa using ⟨.string "1", .array (by simpa using .number _), .null⟩)
  have isComponent : Value.Among (Compiled.Fit cx.settings) component :=
    .element (List.forall_mem_singleton.mpr (isOption (by simpa using isText))) (by simp)
  have isChosen
      : Value.Among (Compiled.Fit cx.settings) (.array [.string "b", .number (.ofInt 12)]) :=
    .array (by simpa using ⟨.string "b", .number _⟩)
  have isSelection : Value.Among (Compiled.Fit cx.settings) selection :=
    .element
      (by simpa using ⟨.null, isChosen, .array (by simpa using ⟨isGroup, isComponent⟩)⟩)
      (by simp)
  have fit : Value.Among (Compiled.Fit cx.settings) value :=
    .array (by simpa using ⟨isSelection, isOption (by simpa using ⟨.string "b", .bool true⟩)⟩)
  have ready : Ready cx (Value.Among (Compiled.Fit cx.settings)) before :=
    .start (fun _ _ read => read) _
  have checked
      : (renderValue cx (invoke cx 1) value before).1 = .ok ()
        ∧ Piece.renderAll (renderValue cx (invoke cx 1) value before).2.output.toList
          = markup := by
    decide +kernel
  obtain ⟨reached, outcome, writes⟩ :=
    exists_of_apply (fun reached => Piece.renderAll reached.output.toList) checked
  obtain ⟨⟨places, traced⟩, all, -⟩ :=
    @renderValue_marks cx keeps rfl value fit 1 before reached ready none rfl outcome
  exact ⟨reached, places, outcome, writes, traced,
    fun place member props => (all places traced place member props).1⟩

/-- An option beside a void selection is marked. A name in capitals is not that of the value of a
selection, which therefore writes it.
-/
theorem void_selection_marks
    : let host : Host := .constant fun _ => .undefined
      let engine : Engine :=
        { settings := { options := { read := { isVoid := (· == "select") } } } }
      let template : Template := ⟨0, ["<div><select value=b /><option value=b /></div>"]⟩
      let capital : Template := ⟨1, ["<select VALUE=b></select>"]⟩
      (engine.render host false template []).1
        = .ok
            ("<div data-reactroot=\"\"><select/><option selected=\"\" value=\"b\"></option>"
              ++ "</div>")
      ∧ ((Engine.ofOptions {}).render host false capital []).1
        = .ok "<select VALUE=\"b\" data-reactroot=\"\"></select>" := by
  decide +kernel

end Render

end TaggedMarkup
