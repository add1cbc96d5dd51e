import TaggedMarkup.Proofs.Reading.Nesting
import TaggedMarkup.Registry

/-! The shape of the tree of a template is that of its tokens. The walk over the tree meets the
tokens in order, the nodes are numbered in the order of their open tags, every node is a child of
the node that it names as the one around it, and every node is closed.
-/

namespace TaggedMarkup

-----------------------------------------------------------------------------------------
-- Children and visits
-----------------------------------------------------------------------------------------

section

variable {α : Type}

/-- What is picked of the children of a node. -/
def Branch.collect (pick : Option Nat → Child → Option α) (branch : Branch) : List α :=
  branch.children.filterMap (pick (some branch.node.id))

/-- What is picked of children, and of the children of each node in them. -/
def Child.collect (pick : Option Nat → Child → Option α) (around : Option Nat)
    (children : List Child)
    : List α :=
  children.filterMap (pick around) ++ (Child.branchesOf children).flatMap (Branch.collect pick)

theorem Child.collect_cons (pick : Option Nat → Child → Option α) (around : Option Nat)
    (child : Child) (rest : List Child)
    : (Child.collect pick around [child] ++ Child.collect pick around rest).Perm
        (Child.collect pick around (child :: rest)) := by
  have once : List.filterMap (pick around) (child :: rest)
      = [child].filterMap (pick around) ++ rest.filterMap (pick around) :=
    @List.filterMap_append _ _ [child] ..
  simp only [collect, once, branchesOf, List.flatMap_append, List.append_nil, List.append_assoc]
  refine .append_left _ ?_
  rw [← List.append_assoc, ← List.append_assoc]
  exact List.perm_append_comm.append_right _

/-- What is seen of the visits to a child is what is picked of the child. -/
structure Visit.Sees (pick : Option Nat → Child → Option α) (see : Visit → Option α)
    : Prop where
  text : ∀ around written, see ⟨.text written, around⟩ = pick around (.text written)
  slot : ∀ around index, see ⟨.slot index, around⟩ = pick around (.slot index)
  opening
    : ∀ around node children,
        (node.opening around).filterMap see = (pick around (.branch node children)).toList
  closeTag : ∀ around node name location, see ⟨.closeTag node name location, around⟩ = none

variable {pick : Option Nat → Child → Option α} {see : Visit → Option α}

mutual

/-- A walk over a child sees what is picked of it and of what is in it. -/
theorem Child.collect_walk (sees : Visit.Sees pick see) (around : Option Nat) (child : Child)
    : ((child.walk around).filterMap see).Perm (Child.collect pick around [child]) := by
  cases child with
  | text written =>
      simp [walk, collect, branchesOf, branches, sees.text, List.filterMap_cons]
  | slot index =>
      simp [walk, collect, branchesOf, branches, sees.slot, List.filterMap_cons]
  | branch node children =>
      have inside := Child.collect_walkOf sees (some node.id) children
      have closing
          : List.filterMap see
              (node.closed.map fun location =>
                ⟨.closeTag node.id node.name location, around⟩).toList
            = [] := by
        cases node.closed <;> simp [sees.closeTag]
      have picked
          : [Child.branch node children].filterMap (pick around)
            = (pick around (.branch node children)).toList := by
        cases isPicked : pick around (.branch node children) <;> simp [isPicked]
      simp only [walk, List.filterMap_append, sees.opening around node children, closing, collect,
        picked, branchesOf, branches, List.append_nil, List.flatMap_cons]
      exact inside.append_left _

theorem Child.collect_walkOf (sees : Visit.Sees pick see) (around : Option Nat)
    (children : List Child)
    : ((Child.walkOf around children).filterMap see).Perm
        (Child.collect pick around children) := by
  cases children with
  | nil => exact .refl _
  | cons child rest =>
      have together
          := (Child.collect_walk sees around child).append (Child.collect_walkOf sees around rest)
      simp only [walkOf, List.filterMap_append]
      exact together.trans (Child.collect_cons pick around child rest)

end

end

-----------------------------------------------------------------------------------------
-- Places
-----------------------------------------------------------------------------------------

def Child.node? : Child → Option Node
  | .branch node _ => some node
  | _ => none

/-- The place that a node names as its own: the node around it, and its number. -/
def Node.place (node : Node) : Option Nat × Nat :=
  (node.parent, node.id)

/-- The place of the node whose open tag is met. -/
def Visit.place? (visit : Visit) : Option (Option Nat × Nat) :=
  match visit.event with
  | .openTag node _ _ => some (visit.around, node)
  | _ => none

/-- The number of the node whose open tag is met. -/
def Visit.opens? (visit : Visit) : Option Nat :=
  visit.place?.map Prod.snd

theorem Node.place_opening (node : Node) (around : Option Nat)
    : (node.opening around).filterMap Visit.place? = [(around, node.id)] := by
  simp [opening, beginning, Visit.place?, List.filterMap_map, Function.comp_def]

theorem Visit.sees_place
    : Visit.Sees (fun around child => child.node?.map fun node => (around, node.id))
        Visit.place? where
  text _ _ := rfl
  slot _ _ := rfl
  opening around node _ := node.place_opening around
  closeTag _ _ _ _ := rfl

mutual

/-- The nodes of a complete child are met in the places that they name. -/
theorem Child.Complete.walk {around : Option Nat} {child : Child}
    (complete : child.Complete around)
    : (child.walk around).filterMap Visit.place?
      = child.branches.map fun branch => branch.node.place := by
  cases child with
  | text written => rfl
  | slot index => rfl
  | branch node children =>
      obtain ⟨rfl, -, inside⟩ := complete
      have met := Child.AllComplete.walk inside
      cases closed : node.closed <;>
        simp [Child.walk, branches, closed, node.place_opening, met, Visit.place?, Node.place]

theorem Child.AllComplete.walk {around : Option Nat} {children : List Child}
    (complete : Child.AllComplete around children)
    : (Child.walkOf around children).filterMap Visit.place?
      = (Child.branchesOf children).map fun branch => branch.node.place := by
  cases children with
  | nil => rfl
  | cons child rest =>
      simp only [walkOf, branchesOf, List.filterMap_append, List.map_append,
        Child.Complete.walk complete.1, Child.AllComplete.walk complete.2]

end

mutual

/-- Every node of a complete child is closed. -/
theorem Child.Complete.isClosed {around : Option Nat} {child : Child}
    (complete : child.Complete around)
    : ∀ branch ∈ child.branches, branch.node.isClosed = true := by
  cases child with
  | text written => simp [branches]
  | slot index => simp [branches]
  | branch node children =>
      obtain ⟨-, isClosed, inside⟩ := complete
      intro branch member
      rcases List.mem_cons.mp member with rfl | member
      · exact isClosed
      · exact Child.AllComplete.isClosed inside branch member

theorem Child.AllComplete.isClosed {around : Option Nat} {children : List Child}
    (complete : Child.AllComplete around children)
    : ∀ branch ∈ Child.branchesOf children, branch.node.isClosed = true := by
  cases children with
  | nil => simp [branchesOf]
  | cons child rest =>
      intro branch member
      rcases List.mem_append.mp member with member | member
      · exact Child.Complete.isClosed complete.1 branch member
      · exact Child.AllComplete.isClosed complete.2 branch member

end

namespace Tree

variable {resolver : Resolver} {options : ReadOptions} {fragments : List String} {tree : Tree}

/-- What is picked of every child of a tree, given the node around the child. -/
def collect {α : Type} (pick : Option Nat → Child → Option α) (tree : Tree) : List α :=
  Child.collect pick none tree.roots

/-- The places where nodes are among the roots and among the children of nodes. -/
def placed (tree : Tree) : List (Option Nat × Nat) :=
  tree.collect fun around child => child.node?.map fun node => (around, node.id)

/-- A tree has the shape of tokens. -/
structure Shaped (resolver : Resolver) (options : ReadOptions) (tokens : List Token)
    (tree : Tree)
    : Prop where
  /-- The walk meets the tokens in order, and nothing else. -/
  recorded : Recorded resolver options none tree.walk tokens
  /-- Open tags are met in the order of the numbers. -/
  opened : tree.walk.filterMap Visit.opens? = List.range tree.branches.length
  numbered : ∀ id branch, tree.branch? id = some branch → branch.node.id = id
  /-- Every node is once a child, and that in the place that it names. -/
  placed : tree.placed.Perm (tree.branches.map fun branch => branch.node.place)
  closed : ∀ branch ∈ tree.branches, branch.node.isClosed = true

/-- The tree of a template has the shape of all tokens of the template. -/
theorem parse_shaped (parsed : parse resolver options fragments = .ok tree)
    : (Token.scan fragments).result = .ok ()
      ∧ Shaped resolver options (Token.scan fragments).tokens tree := by
  have read := parse_read parsed
  obtain ⟨accounts, complete⟩ := parse_walked parsed
  have places
      : tree.walk.filterMap Visit.place? = tree.branches.map fun branch => branch.node.place :=
    Child.AllComplete.walk complete
  refine ⟨(parse_eq parsed).1, ?_⟩
  exact {
    recorded := accounts.recorded
    opened := by
      have opened : tree.walk.filterMap Visit.opens? = _ := (List.map_filterMap ..).symm
      rw [opened, places, List.map_map]
      exact read.numbered
    numbered := fun _ _ found => read.id_branch? found
    placed := places ▸ (Child.collect_walkOf Visit.sees_place none tree.roots).symm
    closed := Child.AllComplete.isClosed complete
  }

/-- A component is closed by its other name. Around it and in it are text that is dropped, a void
element with a closing tag, and a slot inside a comment.
-/
theorem parse_shaped_other_name
    : let resolver := (Registry.mk [("A", .function 0), ("B", .function 0)]).resolver
      let fragments := [" <A a=", "><br></br> &lt; <i/></B> <!-- ", " -->"]
      ∃ tree,
        parse resolver {} fragments = .ok tree
        ∧ tree.walk.map Visit.event
          = [.openTag 0 "A" ⟨0, 1⟩, .attribute 0 (.named "a" (.slot 0) ⟨0, 4⟩), .openEnd 0 false,
              .openTag 1 "br" ⟨1, 1⟩, .openEnd 1 false, .closeTag 1 "br" ⟨1, 5⟩, .text " < ",
              .openTag 2 "i" ⟨1, 16⟩, .openEnd 2 true, .closeTag 0 "A" ⟨1, 20⟩]
        ∧ Shaped resolver {} (Token.scan fragments).tokens tree := by
  intro resolver fragments
  have checked
      : (parse resolver {} fragments).map (fun tree => tree.walk.map Visit.event)
          = .ok [.openTag 0 "A" ⟨0, 1⟩, .attribute 0 (.named "a" (.slot 0) ⟨0, 4⟩),
            .openEnd 0 false, .openTag 1 "br" ⟨1, 1⟩, .openEnd 1 false,
            .closeTag 1 "br" ⟨1, 5⟩, .text " < ", .openTag 2 "i" ⟨1, 16⟩, .openEnd 2 true,
            .closeTag 0 "A" ⟨1, 20⟩] := by
    decide +kernel
  obtain ⟨tree, parsed, events⟩ := exists_of_map checked
  exact ⟨tree, parsed, events, (parse_shaped parsed).2⟩

end Tree

end TaggedMarkup
