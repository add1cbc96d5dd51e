import TaggedMarkup.Proofs.Reading.Slots

/-! A template has at least as many characters as open tags, and every node has an open tag. The
numbers of nodes are therefore as small as the template: below 32 bits of characters a tree is the
same whether its numbers are cut to 32 bits or not.
-/

namespace TaggedMarkup

-----------------------------------------------------------------------------------------
-- Open tags
-----------------------------------------------------------------------------------------

namespace Token

def isOpenTag : Token → Bool
  | .openTag .. => true
  | _ => false

/-- How many open tags there are among tokens. -/
def openings (tokens : List Token) : Nat :=
  tokens.countP isOpenTag

theorem openings_append (tokens others : List Token)
    : openings (tokens ++ others) = openings tokens + openings others :=
  List.countP_append

end Token

namespace Scanner

open Token (openings openings_append)

theorem openings_textTokens (run : String) (location : Location)
    : openings (textTokens run location) = 0 := by
  simp only [textTokens]
  split <;> rfl

theorem openings_endTag {tokens others : List Token} {selfClosing : Bool} {here : Location}
    {c : Char} {next : Mode} (ends : endTag tokens selfClosing here c = .ok (others, next))
    : openings others = openings tokens := by
  obtain ⟨rfl, -⟩ := Prod.mk.inj (Except.ok.inj ends)
  exact openings_append tokens [.openEnd selfClosing]

theorem openings_stepBeforeAttribute {tokens others : List Token} {here : Location} {c : Char}
    {next : Mode} (stepped : stepBeforeAttribute tokens here c = .ok (others, next))
    : openings others = openings tokens := by
  simp only [stepBeforeAttribute] at stepped
  repeat' split at stepped
  all_goals
    first
    | exact openings_endTag stepped
    | cases stepped <;> rfl

/-- One character leads to one open tag at most. -/
theorem openings_step {mode next : Mode} {here : Location} {c : Char} {rest : List Char}
    {tokens : List Token} (stepped : step mode here c rest = .ok (tokens, next))
    : openings tokens ≤ 1 := by
  cases mode with
  | text run offset =>
      simp only [step] at stepped
      split at stepped <;> obtain ⟨rfl, -⟩ := Prod.mk.inj (Except.ok.inj stepped)
      · simp [openings_textTokens]
      · exact Nat.zero_le 1
  | tagName start name =>
      simp only [step] at stepped
      split at stepped
      · exact Nat.le_of_eq (openings_stepBeforeAttribute stepped)
      · obtain ⟨rfl, -⟩ := Prod.mk.inj (Except.ok.inj stepped)
        exact Nat.zero_le 1
  | beforeAttribute => exact openings_stepBeforeAttribute stepped ▸ Nat.zero_le 1
  | afterAttributeName start name =>
      simp only [step] at stepped
      split at stepped
      · obtain ⟨rfl, -⟩ := Prod.mk.inj (Except.ok.inj stepped)
        exact Nat.zero_le 1
      split at stepped
      · obtain ⟨rfl, -⟩ := Prod.mk.inj (Except.ok.inj stepped)
        exact Nat.zero_le 1
      split at stepped
      · cases stepped
      · exact openings_stepBeforeAttribute stepped ▸ Nat.zero_le 1
  | _ =>
      simp only [step] at stepped
      repeat' split at stepped
      all_goals
        first
        | exact Nat.le_trans (Nat.le_of_eq (openings_endTag stepped))
            (by simp [openings, Token.isOpenTag])
        | cases stepped <;> simp [openings, Token.isOpenTag]

theorem openings_boundary {mode next : Mode} {fragment offset slot : Nat} {tokens : List Token}
    (passed : boundary mode fragment offset slot = .ok (tokens, next))
    : openings tokens = 0 := by
  cases mode with
  | text run start =>
      obtain ⟨rfl, -⟩ := Prod.mk.inj (Except.ok.inj passed)
      rw [openings_append, openings_textTokens]
      rfl
  | spread start dots =>
      simp only [boundary] at passed
      split at passed
      · obtain ⟨rfl, -⟩ := Prod.mk.inj (Except.ok.inj passed)
        rfl
      · cases passed
  | beforeValue | beforeAttribute | afterAttributeName | commentStart | comment =>
      obtain ⟨rfl, -⟩ := Prod.mk.inj (Except.ok.inj passed)
      rfl
  | _ => cases passed

theorem openings_finish {mode : Mode} {fragment : Nat} {tokens : List Token}
    (finished : finish mode fragment = .ok tokens)
    : openings tokens = 0 := by
  cases mode with
  | text run start =>
      obtain rfl := Except.ok.inj finished
      exact openings_textTokens ..
  | _ => cases finished

/-- The characters of a fragment give at most as many open tags, by induction on them. -/
theorem openings_scanChars (fragment : Nat) (mode : Mode) (offset : Nat) (chars : List Char)
    : openings (scanChars fragment mode offset chars).tokens ≤ chars.length := by
  induction chars generalizing mode offset with
  | nil => exact Nat.le_refl 0
  | cons c rest ih =>
      simp only [scanChars]
      split
      next => exact Nat.zero_le _
      next tokens next stepped =>
          have first := openings_step stepped
          have later := ih next (offset + c.utf8Size)
          rw [openings_append, List.length_cons]
          omega

/-- Fragments give at most as many open tags as they have characters. -/
theorem Reads.openings {fragment : Nat} {mode : Mode} {fragments : List String}
    {tokens : List Token} (reads : Reads fragment mode fragments tokens)
    : Token.openings tokens ≤ (fragments.flatMap String.toList).length := by
  induction reads with
  | none finished => simp [openings_finish finished]
  | @last fragment _ mode _ first _ _ finished =>
      have inside := openings_scanChars fragment mode 0 first.toList
      rw [openings_append, openings_finish finished]
      simpa using inside
  | @next fragment _ mode _ _ first _ _ _ _ _ passed _ ih =>
      have inside := openings_scanChars fragment mode 0 first.toList
      rw [openings_append, openings_append, openings_boundary passed, List.flatMap_cons,
        List.length_append]
      omega

end Scanner

-----------------------------------------------------------------------------------------
-- Nodes
-----------------------------------------------------------------------------------------

/-- The node that a slot is in, or in whose open tag it stands. -/
def SlotKind.node? : SlotKind → Option Nat
  | .attribute node _ | .attributeName node | .spread node => some node
  | .child parent => parent
  | .ignored => none

namespace Tree

variable {resolver : Resolver} {options : ReadOptions} {fragments : List String} {tree : Tree}

/-- A walk opens at most as many nodes as there are open tags. -/
theorem Recorded.opened {around : Option Nat} {visits : List Visit} {tokens : List Token}
    (recorded : Recorded resolver options around visits tokens)
    : (visits.filterMap Visit.opens?).length ≤ Token.openings tokens := by
  induction recorded with
  | start => exact Nat.le_refl 0
  | passed _ _ ih =>
      rw [Token.openings_append]
      exact Nat.le_add_right_of_le ih
  | @met _ _ _ token visit _ meets ih =>
      have once : ([visit].filterMap Visit.opens?).length ≤ Token.openings [token] := by
        obtain ⟨event, around⟩ := visit
        cases meets <;> exact Nat.le_refl _
      rw [Token.openings_append, List.filterMap_append, List.length_append]
      exact Nat.add_le_add ih once

/-- A template has at least as many characters as its tree has nodes. -/
theorem parse_size (parsed : parse resolver options fragments = .ok tree)
    : tree.branches.length ≤ (fragments.flatMap String.toList).length := by
  obtain ⟨scanned, shaped⟩ := parse_shaped parsed
  have opened := shaped.recorded.opened
  rw [shaped.opened, List.length_range] at opened
  exact Nat.le_trans opened (Scanner.scanFragments_reads scanned).openings

/-- The numbers of the nodes in a tree and of the nodes around them, and of the nodes in which
slots stand.
-/
def numbers (tree : Tree) : List Nat :=
  tree.branches.flatMap (fun branch => branch.node.id :: branch.node.parent.toList)
    ++ tree.slots.flatMap fun kind => kind.node?.toList

/-- What is picked inside a node is picked of a node of the tree. -/
theorem around_of_mem_collect {α : Type} {pick : Option Nat → Child → Option α} {picked : α}
    (member : picked ∈ tree.collect pick)
    : ∃ around child,
        pick around child = some picked
        ∧ ∀ id ∈ around, ∃ branch ∈ tree.branches, branch.node.id = id := by
  rcases List.mem_append.mp member with root | inside
  · obtain ⟨child, -, isPicked⟩ := List.mem_filterMap.mp root
    exact ⟨none, child, isPicked, by simp⟩
  · obtain ⟨branch, isBranch, isChild⟩ := List.mem_flatMap.mp inside
    obtain ⟨child, -, isPicked⟩ := List.mem_filterMap.mp isChild
    exact ⟨some branch.node.id, child, isPicked, by simpa using ⟨branch, isBranch, rfl⟩⟩

/-- Attributes that use a slot stand in nodes of the tree. -/
theorem node_of_mem_attributesOf {slot id : Nat} {written : Attribute}
    (member : (id, written) ∈ tree.attributesOf slot)
    : ∃ branch ∈ tree.branches, branch.node.id = id := by
  obtain ⟨branch, isBranch, isWritten⟩ := List.mem_flatMap.mp (List.mem_filter.mp member).1
  obtain ⟨_, -, same⟩ := List.mem_map.mp isWritten
  exact ⟨branch, isBranch, (Prod.mk.inj same).1⟩

/-- The number that a slot is noted with is that of a node. -/
theorem Uses.node {slot : Nat} {kind : SlotKind} (uses : tree.Uses slot kind)
    : ∀ id ∈ kind.node?, ∃ branch ∈ tree.branches, branch.node.id = id := by
  intro id member
  cases uses with
  | «attribute» _ written | attributeName _ written | spread _ written =>
      obtain rfl := Option.some.inj member
      exact node_of_mem_attributesOf (written ▸ List.mem_singleton_self _)
  | child _ isChild =>
      have inside := isChild ▸ List.mem_singleton_self _
      obtain ⟨⟨parent, index⟩, slotted, rfl⟩ := List.mem_map.mp inside
      obtain ⟨around, child, isPicked, known⟩ :=
        around_of_mem_collect (List.mem_filter.mp slotted).1
      obtain ⟨_, -, same⟩ := Option.map_eq_some_iff.mp isPicked
      exact known id ((Prod.mk.inj same).1 ▸ member)
  | ignored => cases member

/-- All numbers in the tree of a template are those of its nodes. -/
theorem lt_of_mem_numbers (parsed : parse resolver options fragments = .ok tree) {number : Nat}
    (member : number ∈ tree.numbers)
    : number < tree.branches.length := by
  have read := parse_read parsed
  have shaped := (parse_shaped parsed).2
  have ofNode (known : ∃ branch ∈ tree.branches, branch.node.id = number)
      : number < tree.branches.length := by
    obtain ⟨branch, isBranch, rfl⟩ := known
    exact (List.getElem?_eq_some_iff.mp (read.branch?_id isBranch)).1
  refine ofNode ?_
  rcases List.mem_append.mp member with ofBranch | ofSlot
  · obtain ⟨branch, isBranch, inside⟩ := List.mem_flatMap.mp ofBranch
    rcases List.mem_cons.mp inside with rfl | isParent
    · exact ⟨branch, isBranch, rfl⟩
    · have placed := shaped.placed.mem_iff.mpr (List.mem_map_of_mem isBranch)
      obtain ⟨around, child, isPicked, known⟩ := around_of_mem_collect placed
      obtain ⟨_, -, same⟩ := Option.map_eq_some_iff.mp isPicked
      have isAround : around = branch.node.parent := (Prod.mk.inj same).1
      exact known number (isAround ▸ Option.mem_toList.mp isParent)
  · obtain ⟨kind, isKind, isNode⟩ := List.mem_flatMap.mp ofSlot
    obtain ⟨slot, isHere⟩ := List.getElem?_of_mem isKind
    exact ((parse_slots parsed).uses slot kind isHere).node number (Option.mem_toList.mp isNode)

/-- The numbers in the tree of a template of less than 32 bits of characters have 32 bits. -/
theorem parse_numbers (parsed : parse resolver options fragments = .ok tree)
    (short : (fragments.flatMap String.toList).length < UInt32.size)
    : ∀ number ∈ tree.numbers, number % UInt32.size = number := by
  intro number member
  have below := lt_of_mem_numbers parsed member
  exact Nat.mod_eq_of_lt (Nat.lt_trans (Nat.lt_of_lt_of_le below (parse_size parsed)) short)

end Tree

end TaggedMarkup
