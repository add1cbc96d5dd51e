import TaggedMarkup.Merge

/-! A tree can be made into elements instead of markup. Each node becomes an element with its
merged properties, and the children between its tags become its `children` property.
-/

namespace TaggedMarkup.ElementGraph

/-- What a template is made into elements with. -/
structure Binding where
  serial : Nat
  components : List (Nat × Component)
  values : List Value

/-- What the element of a node renders as. A component that is not known is a host element. -/
def kindOf (binding : Binding) (node : Node) : ElementKind :=
  match node.tag with
  | .element name => .host name
  | .fragment => .fragment
  | .component name =>
      match binding.components.lookup node.id with
      | some component => .component component
      | none => .host name

/-- The element of a node whose children have been made into values. -/
def elementOf (binding : Binding) (node : Node) (children : List Value) : Element :=
  let (identity, props) := splitIdentity (node.props binding.values)
  {
    serial := binding.serial
    part := some node.id
    kind := kindOf binding node
    key := identity.key
    reference := identity.reference
    props :=
      if children.isEmpty then
        props
      else
        Fields.insert props "children" (Value.ofChildren children)
  }

mutual

def childValue (binding : Binding) : Child → Value
  | .text text => .string text
  | .slot slot => binding.values.getD slot .undefined
  | .branch node children =>
      .element (elementOf binding node (childValues binding children))

def childValues (binding : Binding) : List Child → List Value
  | [] => []
  | child :: rest => childValue binding child :: childValues binding rest

end

/-- The value of a whole template: its only child, a fragment of several children, or `null`
when there is none. -/
def build (tree : Tree) (binding : Binding) : Value :=
  match childValues binding tree.roots with
  | [] => .null
  | [child] => child
  | children =>
      .element
        {
          serial := binding.serial
          part := none
          kind := .fragment
          key := none
          reference := none
          props := [("children", .array children)]
        }

end TaggedMarkup.ElementGraph
