import TaggedMarkup.ElementGraph
import TaggedMarkup.Proofs.Rendering.Attributes

/-! In plain nodes every attribute has a name of its own, and none gives markup as it is. Their
merged properties are their attributes in order, so writing the attributes one by one and
writing the properties of an element come to the same.
-/

namespace TaggedMarkup

/-- Whether the template gives the name of the attribute. -/
def Attribute.isNamed : Attribute → Bool
  | .named .. => true
  | _ => false

namespace Node

/-- A node that is no component, of which the template gives every attribute a name of its own.
It gives no markup as it is, it has no attributes as a group of children, and its content does
not lose a line feed.
-/
structure Plain (node : Node) : Prop where
  named : ∀ written ∈ node.attributes, written.isNamed = true
  distinct : (node.attributes.filterMap Attribute.name?).Nodup
  noInner : node.hasNamed "dangerouslySetInnerHTML" = false
  noComponent : node.isComponent = false
  bareFragment : node.tag = .fragment → node.attributes = []
  keepsNewline : node.elementName?.any ["pre", "listing"].contains = false

instance (node : Node) : Decidable node.Plain :=
  decidable_of_iff
    ((∀ written ∈ node.attributes, written.isNamed = true)
      ∧ (node.attributes.filterMap Attribute.name?).Nodup
      ∧ node.hasNamed "dangerouslySetInnerHTML" = false
      ∧ node.isComponent = false
      ∧ (node.tag = .fragment → node.attributes = [])
      ∧ node.elementName?.any ["pre", "listing"].contains = false)
    ⟨fun ⟨named, distinct, noInner, noComponent, bareFragment, keepsNewline⟩ =>
        ⟨named, distinct, noInner, noComponent, bareFragment, keepsNewline⟩,
      fun plain =>
        ⟨plain.named, plain.distinct, plain.noInner, plain.noComponent, plain.bareFragment,
          plain.keepsNewline⟩⟩

namespace Plain

variable {node : Node} {values : List Value} {name : String}

/-- The names that named attributes assign are those that the template gives. -/
theorem names_assigned {attributes : List Attribute}
    (named : ∀ written ∈ attributes, written.isNamed = true)
    : Fields.names (attributes.flatMap (Attribute.assigned values))
      = attributes.filterMap Attribute.name? := by
  induction attributes with
  | nil => rfl
  | cons first rest ih =>
      have others := ih fun written member => named written (List.mem_cons_of_mem _ member)
      have isNamed := named first (List.mem_cons_self ..)
      cases first with
      | named name value location =>
          simp only [Fields.names] at others
          simp [Fields.names, Attribute.assigned, Attribute.name?, others]
      | spread | dynamicName => cases isNamed

/-- The merged properties of a plain node are its attributes in order. -/
theorem props_eq (plain : node.Plain) (values : List Value)
    : node.props values = node.attributes.flatMap (Attribute.assigned values) := by
  have names
      : Fields.names (node.attributes.flatMap (Attribute.assignments values))
        = node.attributes.filterMap Attribute.name? := by
    rw [← @names_assigned values _ plain.named, ← flatMap_assigned, Fields.names, Fields.names,
      List.map_map]
    rfl
  rw [props, sources, Fields.ofEntries_distinct (names ▸ plain.distinct), ← flatMap_assigned]

/-- A merged property of a plain node has a name that the template gives. -/
theorem contains_props (plain : node.Plain) (values : List Value) (name : String)
    : Fields.contains (node.props values) name = node.hasNamed name := by
  have names := @names_assigned values _ plain.named
  have contained : Fields.contains (node.props values) name
      = (Fields.names (node.props values)).any (· == name) := by
    simp only [Fields.contains, Fields.names, List.any_map]
    rfl
  rw [contained, plain.props_eq, names, List.any_filterMap]
  refine congrArg (fun test => node.attributes.any test) (funext fun written => ?_)
  cases written <;> simp [Attribute.name?]

/-- A name that the template does not give has no value. -/
theorem get?_props (plain : node.Plain) (values : List Value) (absent : node.hasNamed name = false)
    : Fields.get? (node.props values) name = none := by
  have contained := plain.contains_props values name
  rw [absent] at contained
  cases found : Fields.get? (node.props values) name with
  | none => rfl
  | some value => cases contained.symm.trans (Fields.contains_iff.mpr (by simp [found]))

/-- What the attributes of a plain node pass on is their assignments. -/
theorem emissionsFrom_eq (spreads : node.spreads = []) {entry : Nat} {rest : List Attribute}
    (named : ∀ written ∈ rest, written.isNamed = true)
    : (node.emissionsFrom values entry rest).map Emission.field
      = (rest.flatMap (Attribute.assigned values)).filter fun field =>
          !WrittenAttribute.isContentOrIdentity field.1 := by
  induction rest generalizing entry with
  | nil => rfl
  | cons first rest ih =>
      have others :=
        @ih (entry + 1) fun written member => named written (List.mem_cons_of_mem _ member)
      have isNamed := named first (List.mem_cons_self ..)
      rw [emissionsFrom_fields, others, List.flatMap_cons, List.filter_append]
      apply congrArg (· ++ _)
      cases first with
      | named name value location => simp [passed, Attribute.assigned, lastSpread?, spreads]
      | spread | dynamicName => cases isNamed

/-- Writing what the attributes of a plain node pass on writes its merged properties. -/
theorem ofProps_emissions (plain : node.Plain) (spreads : node.spreads = [])
    (values : List Value) (custom : Bool)
    : WrittenAttribute.ofProps ((node.emissions values).map Emission.field) custom
      = WrittenAttribute.ofProps (node.props values) custom := by
  rw [emissions, emissionsFrom_eq spreads plain.named, plain.props_eq,
    WrittenAttribute.ofProps_filter]

end Plain

end Node

end TaggedMarkup
