import TaggedMarkup.Proofs.Rendering.Inline

/-! Where a node stands in its template, and what is around it there, is noted for messages and for
tools. Neither compiling the node nor rendering it depends on that.
-/

namespace TaggedMarkup

/-- An attribute wherever it stands. -/
def Attribute.placeless : Attribute → Attribute
  | .named name value _ => .named name value default
  | .spread slot _ => .spread slot default
  | .dynamicName slot _ => .dynamicName slot default

/-- A node wherever it stands: its name, what it stands for and its attributes. -/
def Node.placeless (node : Node) : Node :=
  {
    id := node.id
    name := node.name
    tag := node.tag
    parent := none
    attributes := node.attributes.map Attribute.placeless
    opened := default
    isVoid := node.isVoid
    isCustom := node.isCustom
    spreads := node.spreads
  }

namespace Attribute

variable {values : List Value}

@[simp] theorem name?_placeless (written : Attribute)
    : written.placeless.name? = written.name? := by
  cases written <;> rfl

@[simp] theorem assignments_placeless (written : Attribute)
    : written.placeless.assignments values = written.assignments values := by
  cases written <;> rfl

end Attribute

namespace Node

variable {values : List Value}

@[simp] theorem hasNamed_placeless (node : Node) (name : String)
    : node.placeless.hasNamed name = node.hasNamed name := by
  simp only [hasNamed, placeless, List.any_map]
  congr 1
  funext written
  simp

@[simp] theorem hasStatic_placeless (node : Node) (name : String)
    : node.placeless.hasStatic name = node.hasStatic name := by
  simp only [hasStatic, placeless, List.any_map]
  congr 1
  funext written
  cases written with
  | named name value => cases value <;> rfl
  | _ => rfl

@[simp] theorem staticFault?_placeless (node : Node) (tag : String)
    : node.placeless.staticFault? tag = node.staticFault? tag := by
  simp only [staticFault?, hasStatic_placeless]
  rfl

@[simp] theorem hasContentSource_placeless (node : Node)
    : node.placeless.hasContentSource = node.hasContentSource := by
  simp only [hasContentSource, hasNamed_placeless]
  rfl

@[simp] theorem sources_placeless (node : Node)
    : node.placeless.sources values = node.sources values := by
  simp only [sources, placeless, List.flatMap_map, Attribute.assignments_placeless]

@[simp] theorem props_placeless (node : Node)
    : node.placeless.props values = node.props values := by
  simp only [props, sources_placeless]

@[simp] theorem spreadSurvivors_placeless (node : Node) (entry : Nat)
    : node.placeless.spreadSurvivors entry values = node.spreadSurvivors entry values := by
  have same (name : String)
      : writesDynamically values name ∘ Attribute.placeless = writesDynamically values name := by
    funext written
    cases written <;> rfl
  simp only [spreadSurvivors, placeless, ← List.map_drop, List.any_map, same]
  rfl

theorem passed_placeless (node : Node) (entry : Nat) (written : Attribute)
    : node.placeless.passed values entry written.placeless = node.passed values entry written := by
  cases written with
  | spread slot => exact node.spreadSurvivors_placeless entry
  | _ => rfl

theorem emissionsFrom_placeless (node : Node) (entry : Nat) (attributes : List Attribute)
    : node.placeless.emissionsFrom values entry (attributes.map Attribute.placeless)
      = node.emissionsFrom values entry attributes := by
  induction attributes generalizing entry with
  | nil => rfl
  | cons written rest ih =>
      simp only [List.map_cons, emissionsFrom, passed_placeless, ih]

@[simp] theorem emissions_placeless (node : Node)
    : node.placeless.emissions values = node.emissions values :=
  node.emissionsFrom_placeless 0 node.attributes

end Node

-----------------------------------------------------------------------------------------
-- Compiling
-----------------------------------------------------------------------------------------

namespace Program

theorem ofAttribute_placeless (node : Node) (entry : Nat) (written : Attribute)
    : ofAttribute node.placeless entry written.placeless = ofAttribute node entry written := by
  cases written <;> rfl

theorem ofAttributes_placeless (node : Node) (entry : Nat) (attributes : List Attribute)
    : ofAttributes node.placeless entry (attributes.map Attribute.placeless)
      = ofAttributes node entry attributes := by
  induction attributes generalizing entry with
  | nil => rfl
  | cons written rest ih =>
      simp only [List.map_cons, ofAttributes, ofAttribute_placeless, ih]

@[simp] theorem ofOpening_placeless (node : Node) (tag : String) (top : Bool)
    : ofOpening node.placeless tag top = ofOpening node tag top := by
  have same := ofAttributes_placeless node 0 node.attributes
  simp only [ofOpening]
  rw [show node.placeless.attributes = node.attributes.map Attribute.placeless from rfl, same]
  rfl

end Program

-----------------------------------------------------------------------------------------
-- Rendering
-----------------------------------------------------------------------------------------

namespace Slots

variable {cx : RenderSettings} {slots : Slots}

@[simp] theorem nodeProps_placeless (node : Node) (children : List Child)
    : slots.nodeProps ⟨node.placeless, children⟩ = slots.nodeProps ⟨node, children⟩ := by
  simp only [nodeProps, Node.props_placeless]

@[simp] theorem openNode_placeless (node : Node) (tag : String) (top : Bool)
    : slots.openNode cx node.placeless tag top = slots.openNode cx node tag top := by
  simp only [openNode, openSelection, Node.props_placeless, Node.emissions_placeless]
  rfl

@[simp] theorem renderGiven_placeless (node : Node)
    : slots.renderGiven cx node.placeless = slots.renderGiven cx node := by
  simp only [renderGiven, renderContent, Node.hasContentSource_placeless, Node.props_placeless,
    Node.sources_placeless]
  rfl

end Slots

end TaggedMarkup
