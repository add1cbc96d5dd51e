import TaggedMarkup.Json
import TaggedMarkup.Tree

/-! A tree as JSON data, for people who look at what a template means. -/

namespace TaggedMarkup

/-- An object with a type and further fields. -/
def Json.tagged (type : String) (fields : List (String × Json)) : Json :=
  .object (("type", .string type) :: fields)

def Location.toJson (location : Location) : Json :=
  .object [("fragment", .ofNat location.fragment), ("offset", .ofNat location.offset)]

namespace Tree

/-- What a tag stands for, as data. -/
def tagJson : Tag → Json
  | .element name => .tagged "Element" [("name", .string name)]
  | .component name => .tagged "Component" [("name", .string name)]
  | .fragment => .tagged "Fragment" []

/-- The value of an attribute as data. -/
def attributeValueJson : AttributeValue → Json
  | .literal text => .tagged "Literal" [("value", .string text)]
  | .bare => .tagged "True" []
  | .slot index => .tagged "Placeholder" [("value", .ofNat index)]

def attributeJson : Attribute → Json
  | .named name value location =>
      .tagged "Named"
        [("name", .string name), ("value", attributeValueJson value), ("loc", location.toJson)]
  | .spread slot location => .tagged "Spread" [("slot", .ofNat slot), ("loc", location.toJson)]
  | .dynamicName slot location =>
      .tagged "DynamicName" [("slot", .ofNat slot), ("loc", location.toJson)]

/-- A child as data. A node is given by its number. -/
def childJson : Child → Json
  | .text text => .tagged "Text" [("value", .string text)]
  | .slot index => .tagged "Slot" [("value", .ofNat index)]
  | .branch node _ => .tagged "Node" [("value", .ofNat node.id)]

/-- The flags of a node, by name. -/
def flagNames (node : Node) : List String :=
  [(node.isComponent, "COMPONENT"), (node.isSelfClosing, "SELF_CLOSING"),
    (node.isClosed, "CLOSED"), (node.isVoid, "VOID"), (node.isCustom, "CUSTOM_ELEMENT")].filterMap
    fun (holds, name) => if holds then some name else none

/-- What was noted of a spread, as data. -/
def spreadJson (note : SpreadNote) : Json :=
  .object
    [("slot", .ofNat note.slot), ("entry", .ofNat note.entry),
      ("before", .array (note.before.map .string)), ("after", .array (note.after.map .string))]

/-- What was noted of a node, as data. -/
def noteJson (node : Node) : Json :=
  .object
    [("open", node.opened.toJson), ("close", .ofOption Location.toJson node.closed),
      ("flags", .string (String.intercalate " | " (flagNames node))),
      ("dyn_attrs", .object (node.dynamicAttributes.map fun (name, slot) => (name, .ofNat slot))),
      ("dyn_children",
        .object (node.dynamicChildren.map fun (position, slot) =>
          (toString position, .ofNat slot))),
      ("spreads", .array (node.spreads.map spreadJson))]

def branchJson (branch : Branch) : Json :=
  let node := branch.node
  .object
    [("id", .ofNat node.id), ("name", .string node.name), ("tag", tagJson node.tag),
      ("parent", .ofOption .ofNat node.parent),
      ("attributes", .array (node.attributes.map attributeJson)),
      ("children", .array (branch.children.map childJson)), ("meta", noteJson node)]

def slotJson : SlotKind → Json
  | .attribute node name =>
      .tagged "Attribute" [("node", .ofNat node), ("name", .string name)]
  | .attributeName node => .tagged "AttributeName" [("node", .ofNat node)]
  | .spread node => .tagged "Spread" [("node", .ofNat node)]
  | .child parent => .tagged "Child" [("parent", .ofOption .ofNat parent)]
  | .ignored => .tagged "Ignored" []

def toJson (tree : Tree) : Json :=
  .object
    [("nodes", .array (tree.branches.map branchJson)),
      ("root", .array (tree.roots.map childJson)),
      ("slots", .array (tree.slots.map slotJson)), ("ties", .array (tree.ties.map .string))]

end Tree

end TaggedMarkup
