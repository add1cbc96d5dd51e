import TaggedMarkup.Proofs.Compiling
import TaggedMarkup.Proofs.Session

/-! Values do not come from anywhere: a bound template was read and compiled before it was
bound. This holds of the templates in the store of an engine and of what component code is
given and answered, as long as the code makes no template up.
-/

namespace TaggedMarkup

open Stateful

/-- A compiled template is what some fragments that could be read and compiled compile to. -/
structure Compiled.Genuine (form : Compiled) : Prop where
  parsed : ∃ resolver options fragments, Tree.parse resolver options fragments = .ok form.tree
  compiled : Compiled.ofTree form.tree form.components = .ok form

/-- All bound templates in a value have a property together with the values that are bound to
them, those in the scopes of functions included.
-/
inductive Value.Each (holds : Markup → Prop) : Value → Prop
  | undefined : Value.Each holds .undefined
  | null : Value.Each holds .null
  | bool (value : Bool) : Value.Each holds (.bool value)
  | number (value : Binary64) : Value.Each holds (.number value)
  | string (value : String) : Value.Each holds (.string value)
  | symbol (description : String) : Value.Each holds (.symbol description)
  | array {items : List Value} (inside : ∀ item ∈ items, Value.Each holds item)
    : Value.Each holds (.array items)
  | object {fields : Props} (inside : ∀ field ∈ fields, Value.Each holds field.2)
    : Value.Each holds (.object fields)
  | element {element : Element} (props : ∀ field ∈ element.props, Value.Each holds field.2)
    (reference : ∀ value, element.reference = some value → Value.Each holds value)
    : Value.Each holds (.element element)
  | markup {markup : Markup} (bound : holds markup)
    (inside : ∀ value ∈ markup.values, Value.Each holds value)
    : Value.Each holds (.markup markup)
  | function {closure : Closure Value}
    (props : ∀ field ∈ closure.scope.props, Value.Each holds field.2)
    (reference : Value.Each holds closure.scope.reference)
    (state : Value.Each holds closure.scope.state)
    : Value.Each holds (.function closure)

/-- All bound templates in a value are genuine. -/
def Value.Genuine : Value → Prop :=
  Value.Each fun markup => markup.template.Genuine

/-- All bound templates in a value are of certain forms. -/
def Value.Among (forms : Compiled → Prop) : Value → Prop :=
  Value.Each fun markup => forms markup.template

/-- A property of values passes to the values inside and back to what is made of them. Which
templates may be bound is left open.
-/
structure Value.Formed (good : Value → Prop) : Prop extends Value.Inherited good where
  null : good .null
  bool : ∀ value, good (.bool value)
  string : ∀ text, good (.string text)
  items : ∀ {items}, (∀ item ∈ items, good item) → good (.array items)
  parts
    : ∀ {element : Element},
        (∀ field ∈ element.props, good field.2)
        → (∀ value, element.reference = some value → good value)
        → good (.element element)
  slots : ∀ {markup : Markup}, good (.markup markup) → ∀ value ∈ markup.values, good value

/-- What holds of a bound template holds of every node in it. -/
structure Value.Closed (good : Value → Prop) : Prop extends Value.Formed good where
  entry : ∀ {markup : Markup} entry, good (.markup markup) → good (.markup { markup with entry })

/-- A property of values holds of the templates that are read with options and compiled, when it
holds of the values that are bound to them.
-/
def Value.Binds (options : ReadOptions) (good : Value → Prop) : Prop :=
  ∀ serial form values,
    (∃ resolver fragments, Tree.parse resolver options fragments = .ok form.tree)
    → form.Genuine
    → (∀ value ∈ values, good value)
    → good (.markup ⟨serial, form, values, none⟩)

theorem Value.formed_each (holds : Markup → Prop) : Value.Formed (Value.Each holds) where
  undefined := .undefined
  array := by
    rintro items ⟨⟩
    assumption
  object := by
    rintro fields ⟨⟩
    assumption
  props := by
    rintro element ⟨⟩
    assumption
  reference := by
    rintro element ⟨⟩
    assumption
  null := .null
  bool := .bool
  string := .string
  items := .array
  parts := .element
  slots := by
    rintro markup ⟨⟩
    assumption

/-- A property of templates does not depend on the node that is rendered. -/
theorem Value.closed_each (forms : Compiled → Prop)
    : Value.Closed (Value.Each fun markup => forms markup.template) where
  toFormed := formed_each _
  entry := by
    rintro markup entry (_ | _)
    exact .markup ‹_› ‹_›

theorem Value.closed_genuine : Value.Closed Value.Genuine :=
  closed_each Compiled.Genuine

theorem Value.closed_among (forms : Compiled → Prop) : Value.Closed (Value.Among forms) :=
  closed_each forms

theorem Value.genuine_binds (options : ReadOptions) : Value.Binds options Value.Genuine :=
  fun _ _ _ _ genuine inside => .markup genuine inside

-----------------------------------------------------------------------------------------
-- Properties and elements
-----------------------------------------------------------------------------------------

namespace Value.Formed

variable {good : Value → Prop} {values : List Value}

/-- A slot of good values has a good value. -/
theorem getD (formed : Formed good) (holds : ∀ value ∈ values, good value) (slot : Nat)
    : good (values.getD slot .undefined) := by
  rw [List.getD_eq_getElem?_getD]
  cases isHere : values[slot]? with
  | none => exact formed.undefined
  | some value => exact holds value (List.mem_of_getElem? isHere)

/-- The field at a position of a good value is good. -/
theorem fieldAt (formed : Formed good) {value : Option Value}
    (holds : ∀ found, value = some found → good found) (position : Nat)
    : good (Source.fieldAt position value) := by
  simp only [Source.fieldAt]
  split
  next fields =>
      cases isHere : fields[position]? with
      | none => exact formed.undefined
      | some field => exact formed.object (holds _ rfl) field (List.mem_of_getElem? isHere)
  next => exact formed.undefined

/-- The value at a source among good values is good. -/
theorem source (formed : Formed good) (holds : ∀ value ∈ values, good value) (source : Source)
    : good (source.value values) := by
  cases source with
  | literal text => exact formed.string text
  | bare => exact formed.bool true
  | slot index => exact formed.getD holds index
  | field place position =>
      exact formed.fieldAt (fun found isHere => holds found (List.mem_of_getElem? isHere)) position

theorem nodeProps (formed : Formed good) (holds : ∀ value ∈ values, good value) (node : Node)
    : ∀ field ∈ node.props values, good field.2 := by
  intro field member
  obtain ⟨source, -, rfl⟩ := List.mem_map.mp member
  exact formed.source holds source.2

theorem ofChildren (formed : Formed good) {children : List Value}
    (holds : ∀ child ∈ children, good child)
    : good (Value.ofChildren children) := by
  simp only [Value.ofChildren]
  split
  next child => exact holds child (by simp)
  next => exact formed.items holds

end Value.Formed

/-- The key and the reference are taken out of good properties. -/
theorem splitIdentity_forall {good : Value → Prop} {props : Props}
    (holds : ∀ field ∈ props, good field.2)
    : (∀ value, (splitIdentity props).1.reference = some value → good value)
      ∧ ∀ field ∈ (splitIdentity props).2, good field.2 := by
  constructor
  · intro value isReference
    obtain ⟨found, isFound, isPresent⟩ := Option.bind_eq_some_iff.mp isReference
    simp only [Value.present?] at isPresent
    split at isPresent
    · cases isPresent
    · exact Option.some.inj isPresent ▸ Fields.get?_of_forall holds isFound
  · intro field member
    exact holds field (List.mem_filter.mp (List.mem_filter.mp member).1).1

theorem Fields.insert_forall {good : Value → Prop} {props : Props} {value : Value}
    (holds : ∀ field ∈ props, good field.2) (name : String) (added : good value)
    : ∀ field ∈ Fields.insert props name value, good field.2 := by
  induction props with
  | nil =>
      intro field member
      obtain rfl := List.mem_singleton.mp member
      exact added
  | cons first rest ih =>
      obtain ⟨other, old⟩ := first
      have others := fun field member => holds field (List.mem_cons_of_mem _ member)
      intro field member
      simp only [Fields.insert] at member
      split at member
      · rcases List.mem_cons.mp member with rfl | later
        · exact added
        · exact others field later
      · rcases List.mem_cons.mp member with rfl | later
        · exact holds (other, old) (List.mem_cons_self ..)
        · exact ih others field later

namespace Value.Formed

variable {good : Value → Prop} {binding : ElementGraph.Binding}

/-- The element of a node is good when its children are. -/
theorem elementOf (formed : Formed good) (holds : ∀ value ∈ binding.values, good value)
    (node : Node) {children : List Value} (inside : ∀ child ∈ children, good child)
    : good (.element (ElementGraph.elementOf binding node children)) := by
  obtain ⟨reference, props⟩ := splitIdentity_forall (formed.nodeProps holds node)
  refine formed.parts ?_ reference
  simp only [ElementGraph.elementOf]
  split
  · exact props
  · exact Fields.insert_forall props _ (formed.ofChildren inside)

mutual

/-- What a child is made into is good, by induction on the child. -/
theorem childValue (formed : Formed good) (holds : ∀ value ∈ binding.values, good value)
    : ∀ child, good (ElementGraph.childValue binding child)
  | .text text => formed.string text
  | .slot slot => formed.getD holds slot
  | .branch node children => formed.elementOf holds node (formed.childValues holds children)

theorem childValues (formed : Formed good) (holds : ∀ value ∈ binding.values, good value)
    : ∀ children, ∀ value ∈ ElementGraph.childValues binding children, good value
  | [] => by simp [ElementGraph.childValues]
  | child :: rest => by
      intro value member
      rcases List.mem_cons.mp member with rfl | later
      · exact formed.childValue holds child
      · exact formed.childValues holds rest value later

end

/-- The elements that a tree is made into are good. -/
theorem build (formed : Formed good) (holds : ∀ value ∈ binding.values, good value) (tree : Tree)
    : good (ElementGraph.build tree binding) := by
  have inside := formed.childValues holds tree.roots
  simp only [ElementGraph.build]
  split
  next => exact formed.null
  next child isOnly => exact inside child (by simp [isOnly])
  next children _ _ =>
      refine formed.parts ?_ (by simp)
      intro field member
      obtain rfl := List.mem_singleton.mp member
      exact formed.items inside

/-- The properties of a node are good when the values are and when the nodes between its tags
are good on their own.
-/
theorem slotsProps (formed : Formed good) {slots : Slots}
    (values : ∀ value ∈ slots.values, good value) {branch : Branch}
    (nested
      : ∀ {node children},
          Child.branch node children ∈ branch.children
          → good (.markup ⟨slots.serial, slots.template, slots.values, some node.id⟩))
    : (∀ field ∈ (slots.nodeProps branch).2, good field.2)
      ∧ ∀ value, (slots.nodeProps branch).1.reference = some value → good value := by
  obtain ⟨reference, props⟩ := splitIdentity_forall (formed.nodeProps values branch.node)
  refine ⟨?_, reference⟩
  simp only [Slots.nodeProps]
  split
  · exact props
  · refine Fields.insert_forall props _ (formed.ofChildren ?_)
    intro value member
    obtain ⟨child, isChild, rfl⟩ := List.mem_map.mp member
    cases child with
    | text text => exact formed.string text
    | slot slot => exact formed.getD values slot
    | branch node children => exact nested isChild

end Value.Formed

/-- The properties of a node in a good template are good, and so is its reference. -/
theorem Value.Closed.templateProps {good : Value → Prop} (closed : Closed good) {slots : Slots}
    {entry : Option Nat}
    (holds : good (.markup ⟨slots.serial, slots.template, slots.values, entry⟩))
    (branch : Branch)
    : (∀ field ∈ (slots.nodeProps branch).2, good field.2)
      ∧ ∀ value, (slots.nodeProps branch).1.reference = some value → good value :=
  closed.slotsProps (closed.slots holds) fun {node _} _ => closed.entry (some node.id) holds

end TaggedMarkup
