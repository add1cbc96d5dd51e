import TaggedMarkup.Proofs.Reading.Shape

/-! Every slot of a template has one place in the tree, or none if it is inside a comment, and
the tree says what the place is. The scanner gives one token for each slot in order, and the walk
over the tree meets these tokens.
-/

namespace TaggedMarkup

-----------------------------------------------------------------------------------------
-- The slots of the tokens
-----------------------------------------------------------------------------------------

def Token.slot? : Token → Option Nat
  | .attribute _ (.slot index) _ => some index
  | .spread slot _ | .dynamicName slot _ | .child slot _ | .ignored slot => some slot
  | _ => none

namespace Scanner

/-- The tokens of an outcome have no slots. -/
def Slotless (outcome : Outcome) : Prop :=
  ∀ tokens next, outcome = .ok (tokens, next) → tokens.filterMap Token.slot? = []

namespace Slotless

theorem error (error : Error) : Slotless (.error error) :=
  fun _ _ same => nomatch same

theorem ok {tokens : List Token} {next : Mode} (free : tokens.filterMap Token.slot? = [])
    : Slotless (.ok (tokens, next)) := by
  intro tokens' next' same
  obtain ⟨rfl, rfl⟩ := Prod.mk.inj (Except.ok.inj same)
  exact free

theorem endTag {tokens : List Token} (free : tokens.filterMap Token.slot? = [])
    (selfClosing : Bool) (here : Location) (c : Char)
    : Slotless (Scanner.endTag tokens selfClosing here c) := by
  refine ok ?_
  rw [List.filterMap_append, free]
  rfl

theorem stepBeforeAttribute {tokens : List Token} (free : tokens.filterMap Token.slot? = [])
    (here : Location) (c : Char)
    : Slotless (Scanner.stepBeforeAttribute tokens here c) := by
  simp only [Scanner.stepBeforeAttribute]
  split
  · exact ok free
  split
  · exact endTag free false here _
  all_goals first | exact error _ | exact ok free

end Slotless

theorem textTokens_slotless (run : String) (location : Location)
    : (textTokens run location).filterMap Token.slot? = [] := by
  simp only [textTokens]
  split <;> rfl

/-- No character leads to a token with a slot. -/
theorem step_slotless (mode : Mode) (here : Location) (c : Char) (rest : List Char)
    : Slotless (step mode here c rest) := by
  cases mode with
  | text run offset =>
      simp only [step]
      split
      · exact .ok (textTokens_slotless ..)
      · exact .ok rfl
  | beforeAttribute => exact .stepBeforeAttribute rfl here c
  | _ =>
      simp only [step]
      repeat' split
      all_goals
        first
        | exact .error _
        | exact .ok rfl
        | exact .endTag rfl _ here c
        | exact .stepBeforeAttribute rfl here c

/-- The end of a fragment leads to one token with the slot that is there. -/
theorem boundary_slot {mode next : Mode} {fragment offset slot : Nat} {tokens : List Token}
    (passed : boundary mode fragment offset slot = .ok (tokens, next))
    : tokens.filterMap Token.slot? = [slot] := by
  cases mode with
  | text run start =>
      obtain ⟨rfl, -⟩ := Prod.mk.inj (Except.ok.inj passed)
      rw [List.filterMap_append, textTokens_slotless]
      rfl
  | spread start dots =>
      simp only [boundary] at passed
      split at passed
      · obtain ⟨rfl, -⟩ := Prod.mk.inj (Except.ok.inj passed)
        rfl
      · cases passed
  | beforeValue | beforeAttribute | afterAttributeName | commentStart | comment =>
      obtain ⟨rfl, -⟩ := Prod.mk.inj (Except.ok.inj passed)
      rfl
  | _ => cases passed

theorem finish_slotless {mode : Mode} {fragment : Nat} {tokens : List Token}
    (finished : finish mode fragment = .ok tokens)
    : tokens.filterMap Token.slot? = [] := by
  cases mode with
  | text run start =>
      obtain rfl := Except.ok.inj finished
      exact textTokens_slotless ..
  | _ => cases finished

/-- The characters of a fragment give no slots, by induction on them. -/
theorem scanChars_slotless (fragment : Nat) (mode : Mode) (offset : Nat) (chars : List Char)
    : (scanChars fragment mode offset chars).tokens.filterMap Token.slot? = [] := by
  induction chars generalizing mode offset with
  | nil => rfl
  | cons c rest ih =>
      simp only [scanChars]
      split
      next => rfl
      next tokens next stepped =>
          rw [List.filterMap_append, ih,
            step_slotless mode ⟨fragment, offset⟩ c rest tokens next stepped]
          rfl

/-- The fragments give the slots between them in order. -/
theorem Reads.slots {fragment : Nat} {mode : Mode} {fragments : List String}
    {tokens : List Token} (reads : Reads fragment mode fragments tokens)
    : tokens.filterMap Token.slot? = List.range' fragment (fragments.length - 1) := by
  induction reads with
  | none finished => exact finish_slotless finished
  | last _ finished =>
      rw [List.filterMap_append, scanChars_slotless, finish_slotless finished]
      rfl
  | next _ passed _ ih =>
      simp only [List.filterMap_append, scanChars_slotless, boundary_slot passed, ih,
        List.length_cons, Nat.add_sub_cancel, List.nil_append, List.singleton_append]
      exact List.range'_succ.symm

end Scanner

/-- The tokens of a template have the slots in order. -/
theorem Token.scan_slots {fragments : List String}
    (scanned : (scan fragments).result = .ok ())
    : (scan fragments).tokens.filterMap Token.slot? = List.range (fragments.length - 1) :=
  (Scanner.scanFragments_reads scanned).slots.trans List.range_eq_range'.symm

-----------------------------------------------------------------------------------------
-- The slots of a walk
-----------------------------------------------------------------------------------------

/-- The slot that is met. -/
def Visit.slot? (visit : Visit) : Option Nat :=
  visit.use?.map Prod.fst

/-- The attribute that is met, with the number of its node. -/
def Visit.written? (visit : Visit) : Option (Nat × Attribute) :=
  match visit.event with
  | .attribute node written => some (node, written)
  | _ => none

/-- The slot that is met as a child, with the element around it. -/
def Visit.child? (visit : Visit) : Option (Option Nat × Nat) :=
  match visit.event with
  | .slot index => some (visit.around, index)
  | _ => none

theorem Visit.slot?_written {visit : Visit} {node : Nat} {written : Attribute}
    (isWritten : visit.written? = some (node, written))
    : visit.slot? = written.slot? := by
  obtain ⟨event, around⟩ := visit
  cases event with
  | «attribute» other same =>
      obtain ⟨rfl, rfl⟩ := Prod.mk.inj (Option.some.inj isWritten)
      rcases same with ⟨name, value, location⟩ | ⟨index, location⟩ | ⟨index, location⟩
      · cases value <;> rfl
      · rfl
      · rfl
  | _ => cases isWritten

theorem Visit.slot?_child {visit : Visit} {around : Option Nat} {slot : Nat}
    (isChild : visit.child? = some (around, slot))
    : visit.slot? = some slot := by
  obtain ⟨event, around'⟩ := visit
  cases event with
  | slot index =>
      obtain ⟨rfl, rfl⟩ := Prod.mk.inj (Option.some.inj isChild)
      rfl
  | _ => cases isChild

def Child.slot? : Child → Option Nat
  | .slot index => some index
  | _ => none

/-- The attributes of a node, each with the number of the node. -/
def Node.written (node : Node) : List (Nat × Attribute) :=
  node.attributes.map fun written => (node.id, written)

theorem Node.written_opening (node : Node) (around : Option Nat)
    : (node.opening around).filterMap Visit.written? = node.written := by
  simp [opening, beginning, written, Visit.written?, List.filterMap_cons, List.filterMap_map,
    Function.comp_def]

theorem Visit.sees_child
    : Visit.Sees (fun around child => child.slot?.map fun slot => (around, slot))
        Visit.child? where
  text _ _ := rfl
  slot _ _ := rfl
  opening around node _ := by
    simp [Node.opening, Node.beginning, Visit.child?, List.filterMap_cons, List.filterMap_map,
      Function.comp_def, Child.slot?]
  closeTag _ _ _ _ := rfl

mutual

/-- The attributes are met in the order of the nodes. -/
theorem Child.written_walk (around : Option Nat) (child : Child)
    : (child.walk around).filterMap Visit.written?
      = child.branches.flatMap fun branch => branch.node.written := by
  cases child with
  | text written => rfl
  | slot index => rfl
  | branch node children =>
      have inside := Child.written_walkOf (some node.id) children
      cases closed : node.closed <;>
        simp [walk, branches, closed, node.written_opening, inside, Visit.written?]

theorem Child.written_walkOf (around : Option Nat) (children : List Child)
    : (Child.walkOf around children).filterMap Visit.written?
      = (Child.branchesOf children).flatMap fun branch => branch.node.written := by
  cases children with
  | nil => rfl
  | cons child rest =>
      simp only [walkOf, branchesOf, List.filterMap_append, List.flatMap_append,
        Child.written_walk around child, Child.written_walkOf around rest]

end

namespace Tree

variable {resolver : Resolver} {options : ReadOptions} {fragments : List String} {tree : Tree}
  {tokens : List Token} {visits : List Visit} {slot : Nat} {kind : SlotKind}

/-- The slots that a walk meets are slots of the tokens, in the same order. -/
theorem Recorded.slots {around : Option Nat}
    (recorded : Recorded resolver options around visits tokens)
    : (visits.filterMap Visit.slot?).Sublist (tokens.filterMap Token.slot?) := by
  induction recorded with
  | start => exact .refl _
  | passed _ passed ih =>
      rw [List.filterMap_append]
      exact ih.trans (List.sublist_append_left ..)
  | met visit _ meets ih =>
      rw [List.filterMap_append, List.filterMap_append]
      refine ih.append ?_
      cases visit
      cases meets <;> exact .refl _

-----------------------------------------------------------------------------------------
-- What is noted of the slots
-----------------------------------------------------------------------------------------

theorem length_note (slots : List SlotKind) (visit : Visit)
    : (Visit.note slots visit).length = slots.length := by
  simp only [Visit.note]
  split
  · exact List.length_set
  · rfl

theorem length_noted (slots : List SlotKind) (visits : List Visit)
    : (visits.foldl Visit.note slots).length = slots.length := by
  induction visits generalizing slots with
  | nil => rfl
  | cons visit rest ih => rw [List.foldl_cons, ih, length_note]

/-- Of a slot that is not met, nothing is noted. -/
theorem noted_unmet (slots : List SlotKind) (unmet : ∀ visit ∈ visits, visit.slot? ≠ some slot)
    : (visits.foldl Visit.note slots)[slot]? = slots[slot]? := by
  induction visits generalizing slots with
  | nil => rfl
  | cons visit rest ih =>
      rw [List.foldl_cons, ih _ fun other member => unmet other (.tail _ member)]
      have differs := unmet visit (.head _)
      simp only [Visit.note]
      split
      next other kind use =>
          rw [List.getElem?_set_ne]
          rintro rfl
          exact differs (by simp only [Visit.slot?, use, Option.map_some])
      next => rfl

/-- Of a slot that is met last at a visit, it is noted what it is there. -/
theorem noted_met {early late : List Visit} {visit : Visit} (slots : List SlotKind)
    (inside : slot < slots.length) (use : visit.use? = some (slot, kind))
    (unmet : ∀ visit ∈ late, visit.slot? ≠ some slot)
    : ((early ++ visit :: late).foldl Visit.note slots)[slot]? = some kind := by
  rw [List.foldl_append, List.foldl_cons, noted_unmet _ unmet]
  simp only [Visit.note, use]
  exact List.getElem?_set_self (by rwa [length_noted])

/-- A walk that meets slots in order meets each once or never. -/
theorem met_once (ordered : (visits.filterMap Visit.slot?).Pairwise (· < ·)) (slot : Nat)
    : (∀ visit ∈ visits, visit.slot? ≠ some slot)
      ∨ ∃ early visit late,
          visits = early ++ visit :: late
          ∧ visit.slot? = some slot
          ∧ (∀ other ∈ early, other.slot? ≠ some slot)
          ∧ ∀ other ∈ late, other.slot? ≠ some slot := by
  by_cases unmet : ∀ visit ∈ visits, visit.slot? ≠ some slot
  · exact .inl unmet
  right
  push Not at unmet
  obtain ⟨visit, member, met⟩ := unmet
  obtain ⟨early, late, rfl⟩ := List.append_of_mem member
  simp only [List.filterMap_append, List.filterMap_cons, met, List.pairwise_append,
    List.pairwise_cons] at ordered
  obtain ⟨-, ⟨later, -⟩, earlier⟩ := ordered
  refine ⟨early, visit, late, rfl, met, ?_, ?_⟩
  · intro other member met'
    exact Nat.lt_irrefl _ (earlier slot (List.mem_filterMap.mpr ⟨other, member, met'⟩) slot
      (.head _))
  · intro other member met'
    exact Nat.lt_irrefl _ (later slot (List.mem_filterMap.mpr ⟨other, member, met'⟩))

-----------------------------------------------------------------------------------------
-- The uses of the slots
-----------------------------------------------------------------------------------------

/-- The attributes that use a slot. -/
def usedBy (slot : Nat) (written : List (Nat × Attribute)) : List (Nat × Attribute) :=
  written.filter fun (_, written) => written.slot? == some slot

/-- What a slot is a child of. -/
def parentsIn (slot : Nat) (slotted : List (Option Nat × Nat)) : List (Option Nat) :=
  (slotted.filter fun (_, child) => child == slot).map Prod.fst

/-- The attributes of the tree that use a slot, each with the number of its node. -/
def attributesOf (tree : Tree) (slot : Nat) : List (Nat × Attribute) :=
  usedBy slot (tree.branches.flatMap fun branch => branch.node.written)

/-- The slots among the roots and among the children of nodes, with what they are children of. -/
def slotted (tree : Tree) : List (Option Nat × Nat) :=
  tree.collect fun around child => child.slot?.map fun slot => (around, slot)

/-- What a slot is a child of in the tree, as often as it is a child. -/
def parentsOf (tree : Tree) (slot : Nat) : List (Option Nat) :=
  parentsIn slot tree.slotted

/-- A slot is used as its kind says, and in no other way. -/
inductive Uses (tree : Tree) (slot : Nat) : SlotKind → Prop
  | attribute {node : Nat} {name : String} (location : Location)
    (written : tree.attributesOf slot = [(node, .named name (.slot slot) location)])
    (noChild : tree.parentsOf slot = [])
    : Uses tree slot (.attribute node name)
  | attributeName {node : Nat} (location : Location)
    (written : tree.attributesOf slot = [(node, .dynamicName slot location)])
    (noChild : tree.parentsOf slot = [])
    : Uses tree slot (.attributeName node)
  | spread {node : Nat} (location : Location)
    (written : tree.attributesOf slot = [(node, .spread slot location)])
    (noChild : tree.parentsOf slot = [])
    : Uses tree slot (.spread node)
  | child {parent : Option Nat} (noAttribute : tree.attributesOf slot = [])
    (isChild : tree.parentsOf slot = [parent])
    : Uses tree slot (.child parent)
  | ignored (noAttribute : tree.attributesOf slot = []) (noChild : tree.parentsOf slot = [])
    : Uses tree slot .ignored

theorem usedBy_append (slot : Nat) (written others : List (Nat × Attribute))
    : usedBy slot (written ++ others) = usedBy slot written ++ usedBy slot others :=
  List.filter_append ..

theorem parentsIn_append (slot : Nat) (slotted others : List (Option Nat × Nat))
    : parentsIn slot (slotted ++ others) = parentsIn slot slotted ++ parentsIn slot others := by
  simp only [parentsIn, List.filter_append, List.map_append]

/-- A slot that is not met is not used. -/
theorem unused_unmet (unmet : ∀ visit ∈ visits, visit.slot? ≠ some slot)
    : usedBy slot (visits.filterMap Visit.written?) = []
      ∧ parentsIn slot (visits.filterMap Visit.child?) = [] := by
  constructor
  · refine List.filter_eq_nil_iff.mpr ?_
    rintro ⟨node, written⟩ member
    obtain ⟨visit, met, isWritten⟩ := List.mem_filterMap.mp member
    simpa [Visit.slot?_written isWritten] using unmet visit met
  · refine List.map_eq_nil_iff.mpr (List.filter_eq_nil_iff.mpr ?_)
    rintro ⟨parent, child⟩ member
    obtain ⟨visit, met, isChild⟩ := List.mem_filterMap.mp member
    simpa [Visit.slot?_child isChild] using unmet visit met

/-- A slot that is met at one visit only is used as the visit says. -/
theorem uses_met {visit : Visit} (use : visit.use? = some (slot, kind))
    (written : tree.attributesOf slot = usedBy slot visit.written?.toList)
    (children : (tree.parentsOf slot).Perm (parentsIn slot visit.child?.toList))
    : tree.Uses slot kind := by
  obtain ⟨event, around⟩ := visit
  cases event with
  | slot index =>
      obtain ⟨rfl, rfl⟩ := Prod.mk.inj (Option.some.inj use)
      have isParent := List.perm_singleton.mp (by simpa [parentsIn, Visit.child?] using children)
      exact .child written isParent
  | «attribute» node given =>
      rcases given with ⟨name, value, location⟩ | ⟨index, location⟩ | ⟨index, location⟩
      · cases value with
        | slot index =>
            obtain ⟨rfl, rfl⟩ := Prod.mk.inj (Option.some.inj use)
            exact .attribute location
              (by simpa [usedBy, Visit.written?, Attribute.slot?] using written) children.eq_nil
        | _ => cases use
      · obtain ⟨rfl, rfl⟩ := Prod.mk.inj (Option.some.inj use)
        exact .spread location
          (by simpa [usedBy, Visit.written?, Attribute.slot?] using written) children.eq_nil
      · obtain ⟨rfl, rfl⟩ := Prod.mk.inj (Option.some.inj use)
        exact .attributeName location
          (by simpa [usedBy, Visit.written?, Attribute.slot?] using written) children.eq_nil
  | _ => cases use

/-- The slots of a tree, and the places where they are used, agree. -/
structure SlotsAgree (slotCount : Nat) (tree : Tree) : Prop where
  length : tree.slots.length = slotCount
  uses : ∀ slot kind, tree.slots[slot]? = some kind → tree.Uses slot kind
  outside
    : ∀ slot, slotCount ≤ slot → tree.attributesOf slot = [] ∧ tree.parentsOf slot = []
  /-- The slots that are met grow. -/
  ordered : (tree.walk.filterMap Visit.slot?).Pairwise (· < ·)

/-- What uses a slot is met by the walk over the tree. -/
theorem attributesOf_eq (tree : Tree) (slot : Nat)
    : tree.attributesOf slot = usedBy slot (tree.walk.filterMap Visit.written?) :=
  congrArg (usedBy slot) (Child.written_walkOf none tree.roots).symm

theorem parentsOf_perm (tree : Tree) (slot : Nat)
    : (parentsIn slot (tree.walk.filterMap Visit.child?)).Perm (tree.parentsOf slot) :=
  ((Child.collect_walkOf Visit.sees_child none tree.roots).filter _).map _

/-- A slot that the walk does not meet is not used in the tree. -/
theorem unused_of_unmet (unmet : ∀ visit ∈ tree.walk, visit.slot? ≠ some slot)
    : tree.attributesOf slot = [] ∧ tree.parentsOf slot = [] := by
  obtain ⟨noAttribute, noChild⟩ := unused_unmet unmet
  have same := parentsOf_perm tree slot
  rw [noChild] at same
  exact ⟨(attributesOf_eq tree slot).trans noAttribute, same.nil_eq.symm⟩

/-- A slot that the walk meets once is used as it is met. -/
theorem uses_of_met {early late : List Visit} {visit : Visit}
    (isWalk : tree.walk = early ++ visit :: late) (use : visit.use? = some (slot, kind))
    (before : ∀ other ∈ early, other.slot? ≠ some slot)
    (after : ∀ other ∈ late, other.slot? ≠ some slot)
    : tree.Uses slot kind := by
  obtain ⟨noneEarly, childEarly⟩ := unused_unmet before
  obtain ⟨noneLate, childLate⟩ := unused_unmet after
  have single {α : Type} (see : Visit → Option α)
      : [visit].filterMap see = (see visit).toList := by
    cases seen : see visit <;> simp [seen]
  have split : early ++ visit :: late = early ++ [visit] ++ late := by simp
  refine uses_met use ?_ ?_
  · rw [attributesOf_eq, isWalk, split, List.filterMap_append, List.filterMap_append,
      usedBy_append, usedBy_append, noneEarly, noneLate, single, List.nil_append,
      List.append_nil]
  · have same := parentsOf_perm tree slot
    rw [isWalk, split, List.filterMap_append, List.filterMap_append, parentsIn_append,
      parentsIn_append, childEarly, childLate, single, List.nil_append, List.append_nil] at same
    exact same.symm

/-- The slots of the tree of a template agree with the places where they are used. -/
theorem parse_slots (parsed : parse resolver options fragments = .ok tree)
    : SlotsAgree (max fragments.length 1 - 1) tree := by
  have scanned := (parse_eq parsed).1
  obtain ⟨accounts, -⟩ := parse_walked parsed
  rw [show max fragments.length 1 - 1 = fragments.length - 1 by omega]
  have slots := accounts.recorded.slots
  rw [Token.scan_slots scanned] at slots
  have ordered := List.Pairwise.sublist slots List.pairwise_lt_range
  have length : tree.slots.length = fragments.length - 1 := by
    rw [accounts.noted, length_noted, List.length_replicate]
  refine ⟨length, ?_, ?_, ordered⟩
  · intro slot kind found
    have inside : slot < fragments.length - 1 := length ▸ (List.getElem?_eq_some_iff.mp found).1
    rcases met_once ordered slot with unmet | ⟨early, visit, late, isWalk, met, before, after⟩
    · rw [accounts.noted, noted_unmet _ unmet, List.getElem?_replicate_of_lt inside] at found
      obtain rfl := Option.some.inj found
      obtain ⟨noAttribute, noChild⟩ := unused_of_unmet unmet
      exact .ignored noAttribute noChild
    · obtain ⟨⟨slot', kind'⟩, use, rfl⟩ := Option.map_eq_some_iff.mp met
      rw [accounts.noted, isWalk, noted_met _ (by simpa using inside) use after] at found
      obtain rfl := Option.some.inj found
      exact uses_of_met isWalk use before after
  · intro slot outside
    refine unused_of_unmet fun visit member met => ?_
    have among := slots.subset (List.mem_filterMap.mpr ⟨visit, member, met⟩)
    exact absurd (List.mem_range.mp among) (by omega)

/-- A slot of each kind, one of them inside a comment. -/
theorem parse_slots_each_kind
    : let fragments := ["<p a=", " ...", " ", ">", "</p><!--", "-->", ""]
      ∃ tree,
        parse Resolver.empty {} fragments = .ok tree
        ∧ tree.slots
          = [.attribute 0 "a", .spread 0, .attributeName 0, .child (some 0), .ignored, .child none]
        ∧ SlotsAgree (max fragments.length 1 - 1) tree := by
  intro fragments
  have checked
      : (parse Resolver.empty {} fragments).map Tree.slots
          = .ok [.attribute 0 "a", .spread 0, .attributeName 0, .child (some 0), .ignored,
            .child none] := by
    decide +kernel
  obtain ⟨tree, parsed, slots⟩ := exists_of_map checked
  exact ⟨tree, parsed, slots, parse_slots parsed⟩

end Tree

end TaggedMarkup
