import Mathlib.Data.List.Basic
import TaggedMarkup.Tree.Builder

/-! What holds of every node of a tree that has been read. A node is put together in three
stages: its open tag is being read, it is open, and it is complete. Each stage has its
invariant, and the nodes of all stages are numbered in the order of their open tags.
-/

namespace TaggedMarkup

-----------------------------------------------------------------------------------------
-- Notes on spreads
-----------------------------------------------------------------------------------------

namespace Attribute

/-- What is noted of the attribute at a position if it is a spread. -/
def note? (attributes : List Attribute) (entry : Nat) : Attribute → Option SpreadNote
  | .spread slot _ =>
      some
        {
          slot
          entry
          before := (attributes.take entry).filterMap name?
          after := (attributes.drop (entry + 1)).filterMap name?
        }
  | _ => none

/-- What is noted of the spreads among attributes, in order. -/
def notes (attributes : List Attribute) : List SpreadNote :=
  attributes.zipIdx.filterMap fun (written, entry) => written.note? attributes entry

/-- What is noted of the spreads before it is known what follows them. -/
def earlyNotes (attributes : List Attribute) : List SpreadNote :=
  (notes attributes).map fun note => { note with after := [] }

theorem earlyNotes_append (attributes : List Attribute) (written : Attribute)
    : earlyNotes (attributes ++ [written])
      = earlyNotes attributes
        ++ ((written.note? attributes attributes.length).map fun note =>
              { note with after := [] }).toList := by
  have same (pair : Attribute × Nat) (member : pair ∈ attributes.zipIdx)
      : (pair.1.note? (attributes ++ [written]) pair.2).map (fun note => { note with after := [] })
        = (pair.1.note? attributes pair.2).map fun note => { note with after := [] } := by
    have inside : pair.2 ≤ attributes.length := by
      have := List.mem_zipIdx member
      omega
    obtain ⟨other, entry⟩ := pair
    cases other <;> simp [note?, List.take_append_of_le_length inside]
  simp only [earlyNotes, notes, List.zipIdx_append, List.filterMap_append, List.map_append,
    List.map_filterMap, Nat.zero_add]
  congr 1
  · exact List.filterMap_congr same
  · cases written <;> simp [note?, List.zipIdx]

end Attribute

-----------------------------------------------------------------------------------------
-- Nodes
-----------------------------------------------------------------------------------------

namespace Tree

variable {resolver : Resolver} {options : ReadOptions} {ties more : List String}
  {tokens : List Token}

/-- What the name of a node says about it. -/
structure NodeNamed (resolver : Resolver) (options : ReadOptions) (ties : List String)
    (node : Node)
    : Prop where
  tag : node.tag = (resolveTag resolver node.name).1
  tied : (resolveTag resolver node.name).2 = true → node.name ∈ ties
  isVoid : node.isVoid = node.elementName?.any options.isVoid
  isCustom
    : node.isCustom = node.elementName?.any fun tag => Html.isCustomTag tag || node.hasNamed "is"

/-- A node whose open tag is being read. -/
structure NodeBegun (resolver : Resolver) (options : ReadOptions) (ties : List String)
    (node : Node)
    : Prop where
  named : NodeNamed resolver options ties node
  spreads : node.spreads = Attribute.earlyNotes node.attributes
  closed : node.closed = none

/-- A node whose open tag has been read. -/
structure NodeOpened (resolver : Resolver) (options : ReadOptions) (ties : List String)
    (node : Node)
    : Prop where
  named : NodeNamed resolver options ties node
  spreads : node.spreads = Attribute.notes node.attributes

/-- A complete node. A closing tag of it is among the tokens and matches it. -/
structure BranchRead (resolver : Resolver) (options : ReadOptions) (ties : List String)
    (tokens : List Token) (branch : Branch)
    : Prop where
  opened : NodeOpened resolver options ties branch.node
  childless : branch.node.isVoid = true → branch.children = []
  texts : ∀ text, .text text ∈ branch.children → text ≠ ""
  closing
    : ∀ location,
        branch.node.closed = some location
        → ∃ name,
            .closeTag name location ∈ tokens ∧ closes resolver branch.node name = true

/-- Children with complete nodes and without empty texts. -/
structure ChildrenRead (resolver : Resolver) (options : ReadOptions) (ties : List String)
    (tokens : List Token) (children : List Child)
    : Prop where
  texts : ∀ text, .text text ∈ children → text ≠ ""
  branches
    : ∀ branch ∈ Child.branchesOf children, BranchRead resolver options ties tokens branch

theorem NodeNamed.mono {node : Node} (named : NodeNamed resolver options ties node)
    (subset : ∀ name ∈ ties, name ∈ more)
    : NodeNamed resolver options more node :=
  { named with tied := fun tied => subset _ (named.tied tied) }

theorem NodeOpened.mono {node : Node} (opened : NodeOpened resolver options ties node)
    (subset : ∀ name ∈ ties, name ∈ more)
    : NodeOpened resolver options more node :=
  { opened with named := opened.named.mono subset }

/-- What is noted of a node apart from its name and its attributes does not matter. -/
theorem NodeOpened.of_same {node other : Node} (opened : NodeOpened resolver options ties node)
    (name : other.name = node.name) (tag : other.tag = node.tag)
    (attributes : other.attributes = node.attributes) (isVoid : other.isVoid = node.isVoid)
    (isCustom : other.isCustom = node.isCustom) (spreads : other.spreads = node.spreads)
    : NodeOpened resolver options ties other where
  named := {
    tag := by simpa only [tag, name] using opened.named.tag
    tied := by simpa only [name] using opened.named.tied
    isVoid := by simpa only [isVoid, Node.elementName?, tag] using opened.named.isVoid
    isCustom := by
      simpa only [isCustom, Node.elementName?, tag, Node.hasNamed, attributes]
        using opened.named.isCustom
  }
  spreads := by simpa only [spreads, attributes] using opened.spreads

theorem ChildrenRead.mono {children : List Child}
    (read : ChildrenRead resolver options ties tokens children)
    (subset : ∀ name ∈ ties, name ∈ more)
    : ChildrenRead resolver options more tokens children where
  texts := read.texts
  branches branch member :=
    { read.branches branch member with
      opened := (read.branches branch member).opened.mono subset }

/-- The nodes of two lists of children are those of each. -/
theorem branchesOf_append (children others : List Child)
    : Child.branchesOf (children ++ others)
      = Child.branchesOf children ++ Child.branchesOf others := by
  induction children with
  | nil => rfl
  | cons child rest ih => simp only [List.cons_append, Child.branchesOf, ih, List.append_assoc]

theorem ChildrenRead.nil : ChildrenRead resolver options ties tokens [] where
  texts := by simp
  branches := by simp [Child.branchesOf]

theorem ChildrenRead.append {children others : List Child}
    (read : ChildrenRead resolver options ties tokens children)
    (read' : ChildrenRead resolver options ties tokens others)
    : ChildrenRead resolver options ties tokens (children ++ others) where
  texts text member := by
    rcases List.mem_append.mp member with early | late
    · exact read.texts text early
    · exact read'.texts text late
  branches branch member := by
    rw [branchesOf_append] at member
    rcases List.mem_append.mp member with early | late
    · exact read.branches branch early
    · exact read'.branches branch late

theorem ChildrenRead.left {children others : List Child}
    (read : ChildrenRead resolver options ties tokens (children ++ others))
    : ChildrenRead resolver options ties tokens children where
  texts text member := read.texts text (List.mem_append.mpr (.inl member))
  branches branch member :=
    read.branches branch (by simp [branchesOf_append, member])

theorem ChildrenRead.branch {node : Node} {children : List Child}
    (complete : BranchRead resolver options ties tokens ⟨node, children⟩)
    (read : ChildrenRead resolver options ties tokens children)
    : ChildrenRead resolver options ties tokens [.branch node children] where
  texts := by simp
  branches branch member := by
    simp only [Child.branchesOf, Child.branches, List.append_nil, List.mem_cons] at member
    rcases member with rfl | inside
    · exact complete
    · exact read.branches branch inside

theorem ChildrenRead.text {text : String} (some : text ≠ "")
    : ChildrenRead resolver options ties tokens [.text text] where
  texts other member := by
    obtain rfl := Child.text.inj (List.mem_singleton.mp member)
    exact some
  branches := by simp [Child.branchesOf, Child.branches]

theorem ChildrenRead.slot (slot : Nat)
    : ChildrenRead resolver options ties tokens [.slot slot] where
  texts := by simp
  branches := by simp [Child.branchesOf, Child.branches]

-----------------------------------------------------------------------------------------
-- Stages of a node
-----------------------------------------------------------------------------------------

theorem NodeBegun.withNamed {node : Node} (begun : NodeBegun resolver options ties node)
    (name : String) (value : AttributeValue) (location : Location)
    : NodeBegun resolver options ties (withNamed node name value location) where
  named := {
    tag := begun.named.tag
    tied := begun.named.tied
    isVoid := begun.named.isVoid
    isCustom := by
      have before := begun.named.isCustom
      simp only [Tree.withNamed, Node.elementName?, Node.hasNamed] at before ⊢
      rw [before]
      cases node.tag <;> simp [Attribute.name?, Bool.or_assoc]
  }
  spreads := by
    simp only [Tree.withNamed, Attribute.earlyNotes_append, ← begun.spreads, Attribute.note?]
    simp
  closed := begun.closed

theorem NodeBegun.withSpread {node : Node} (begun : NodeBegun resolver options ties node)
    (slot : Nat) (location : Location)
    : NodeBegun resolver options ties (withSpread node slot location) where
  named := {
    tag := begun.named.tag
    tied := begun.named.tied
    isVoid := begun.named.isVoid
    isCustom := by
      simpa [Tree.withSpread, Node.elementName?, Node.hasNamed, Attribute.name?]
        using begun.named.isCustom
  }
  spreads := by
    simp only [Tree.withSpread, Attribute.earlyNotes_append, ← begun.spreads, Attribute.note?]
    simp
  closed := begun.closed

theorem NodeBegun.withDynamicName {node : Node}
    (begun : NodeBegun resolver options ties node) (slot : Nat) (location : Location)
    : NodeBegun resolver options ties (withDynamicName node slot location) where
  named := {
    tag := begun.named.tag
    tied := begun.named.tied
    isVoid := begun.named.isVoid
    isCustom := by
      simpa [Tree.withDynamicName, Node.elementName?, Node.hasNamed, Attribute.name?]
        using begun.named.isCustom
  }
  spreads := by
    simp only [Tree.withDynamicName, Attribute.earlyNotes_append, ← begun.spreads,
      Attribute.note?]
    simp
  closed := begun.closed

/-- The open tag ends, and the notes on its spreads are completed. -/
theorem NodeBegun.notedAfter {node : Node} (begun : NodeBegun resolver options ties node)
    : NodeOpened resolver options ties (notedAfter node) where
  named := ⟨begun.named.tag, begun.named.tied, begun.named.isVoid, begun.named.isCustom⟩
  spreads := by
    simp only [Tree.notedAfter, begun.spreads, Attribute.earlyNotes, Attribute.notes,
      List.map_filterMap]
    apply List.filterMap_congr
    intro pair _
    obtain ⟨written, entry⟩ := pair
    cases written <;> simp [Attribute.note?]

end Tree

end TaggedMarkup
