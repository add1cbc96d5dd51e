import TaggedMarkup.Fields
import TaggedMarkup.Token

/-! A tree is the shape of a template without its values. A slot in it is a place for a value,
as an attribute or as a child. Nodes are numbered in the order of their open tags.
-/

namespace TaggedMarkup

/-- What the tag of a node stands for. -/
inductive Tag where
  /-- A host element, by the name that is written. -/
  | element (name : String)
  | component (name : String)
  /-- A group of children without an element of its own. -/
  | fragment
deriving DecidableEq, Repr

/-- One attribute of a node, as it stands in the template. -/
inductive Attribute where
  | named (name : String) (value : AttributeValue) (location : Location)
  | spread (slot : Nat) (location : Location)
  | dynamicName (slot : Nat) (location : Location)
deriving DecidableEq, Repr

namespace Attribute

def name? : Attribute → Option String
  | .named name _ _ => some name
  | _ => none

def slot? : Attribute → Option Nat
  | .named _ (.slot index) _ => some index
  | .named .. => none
  | .spread slot _ => some slot
  | .dynamicName slot _ => some slot

def location : Attribute → Location
  | .named _ _ location => location
  | .spread _ location => location
  | .dynamicName _ location => location

end Attribute

/-- What was noted of a spread: its slot, its position among the attributes, and the names
given before and after it. -/
structure SpreadNote where
  slot : Nat
  entry : Nat
  before : List String
  after : List String
deriving DecidableEq, Repr

structure Node where
  id : Nat
  name : String
  tag : Tag
  parent : Option Nat
  attributes : List Attribute := []
  opened : Location
  /-- Where the closing tag stands, if there is one. -/
  closed : Option Location := none
  isSelfClosing : Bool := false
  isClosed : Bool := false
  isVoid : Bool := false
  isCustom : Bool := false
  /-- The slot that last gives each name its value. -/
  dynamicAttributes : Fields Nat := []
  /-- The positions of the children that are slots. -/
  dynamicChildren : List (Nat × Nat) := []
  spreads : List SpreadNote := []
deriving DecidableEq, Repr

namespace Node

def elementName? (node : Node) : Option String :=
  match node.tag with
  | .element name => some name
  | _ => none

def isComponent (node : Node) : Bool :=
  match node.tag with
  | .component _ => true
  | _ => false

/-- Whether an object is spread among the attributes. -/
def hasSpread (node : Node) : Bool :=
  !node.spreads.isEmpty

/-- The position of the last spread among the attributes. -/
def lastSpread? (node : Node) : Option Nat :=
  node.spreads.getLast?.map SpreadNote.entry

/-- What was noted of the spread at a position. -/
def spreadAt? (node : Node) (entry : Nat) : Option SpreadNote :=
  node.spreads.find? fun note => note.entry == entry

def hasNamed (node : Node) (name : String) : Bool :=
  node.attributes.any fun written => written.name? == some name

end Node

inductive Child where
  /-- Literal text, decoded but not escaped. -/
  | text (text : String)
  | slot (index : Nat)
  | branch (node : Node) (children : List Child)
deriving Repr

structure Branch where
  node : Node
  children : List Child

mutual

/-- The nodes of a child in the order of their open tags. -/
def Child.branches : Child → List Branch
  | .branch node children => ⟨node, children⟩ :: Child.branchesOf children
  | _ => []

/-- The nodes of a list of children in the order of their open tags. -/
def Child.branchesOf : List Child → List Branch
  | [] => []
  | child :: rest => child.branches ++ Child.branchesOf rest

end

/-- What a slot is in the template. -/
inductive SlotKind where
  | attribute (node : Nat) (name : String)
  | attributeName (node : Nat)
  | spread (node : Nat)
  | child (parent : Option Nat)
  /-- Inside a comment; the value is never read. -/
  | ignored
deriving DecidableEq, Repr

structure Tree where
  roots : List Child
  slots : List SlotKind
  /-- The component-like names whose meaning the shape depends on. -/
  ties : List String

namespace Tree

/-- The nodes in the order of their numbers. -/
def branches (tree : Tree) : List Branch :=
  Child.branchesOf tree.roots

def branch? (tree : Tree) (id : Nat) : Option Branch :=
  tree.branches[id]?

end Tree

end TaggedMarkup
