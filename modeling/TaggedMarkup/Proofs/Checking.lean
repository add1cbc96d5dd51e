import TaggedMarkup.Proofs.Placeless
import TaggedMarkup.Proofs.Reading.Regrouping

/-! Whether a template can be compiled, and what is wrong with it otherwise, can be said node by
node, without its programs. It does not depend on which nodes get programs of their own, so a
group of children may as well be a component.
-/

namespace TaggedMarkup

/-- Whether there is a result, and otherwise what is wrong. -/
def verdict {α : Type} (result : Except Error α) : Except Error Unit :=
  result.map fun _ => ()

theorem verdict_bind {α β : Type} (first : Except Error α) (rest : α → Except Error β)
    {other : Except Error Unit} (same : ∀ result, verdict (rest result) = other)
    : verdict (first >>= rest) = (verdict first >>= fun _ => other) := by
  cases first with
  | error error => rfl
  | ok result => exact same result

/-- What is made of a result cannot be wrong. -/
theorem verdict_map {α β : Type} (first : Except Error α) (make : α → β)
    : verdict (first >>= fun result => .ok (make result)) = verdict first := by
  cases first <;> rfl

mutual

/-- What is wrong with a child. -/
def Child.check : Child → Except Error Unit
  | .text _ | .slot _ => .ok ()
  | .branch node children =>
      match node.tag with
      | .fragment | .component _ => Child.checkAll children
      | .element tag =>
          match node.staticFault? tag with
          | some error => .error error
          | none =>
              if Program.isFormControl tag then
                Child.checkAll children
              else do
                verdict (Program.ofOpening node tag false)
                if node.isVoid then .ok () else Child.checkAll children

/-- What is wrong with the first of some children that cannot be compiled. -/
def Child.checkAll : List Child → Except Error Unit
  | [] => .ok ()
  | first :: rest => do
      first.check
      Child.checkAll rest

end

namespace Program

/-- The mark of the first element cannot be wrong. -/
theorem verdict_ofOpening (node : Node) (tag : String) (top : Bool)
    : verdict (ofOpening node tag top) = verdict (ofOpening node tag false) := by
  simp only [ofOpening]
  split
  · rfl
  · cases ofAttributes node 0 node.attributes <;> rfl

mutual

/-- A child can be compiled when nothing is wrong with it, by induction on it. -/
theorem verdict_ofChild
    : ∀ (child : Child) (top leadNewline : Bool),
        verdict (ofChild top leadNewline child) = child.check
  | .text text, top, leadNewline | .slot slot, top, leadNewline => by
      simp only [ofChild, Child.check]
      rfl
  | .branch node children, top, leadNewline => by
      simp only [ofChild, Child.check]
      cases node.tag with
      | fragment => exact verdict_ofChildren children top false
      | component name => exact (verdict_map _ _).trans (verdict_ofNested children)
      | element tag =>
          dsimp only
          cases node.staticFault? tag with
          | some error => rfl
          | none =>
              dsimp only
              split
              next => exact (verdict_map _ _).trans (verdict_ofNested children)
              next =>
                  rw [← verdict_ofOpening node tag top]
                  refine verdict_bind _ _ fun opening => ?_
                  split
                  next => rfl
                  next =>
                      split
                      next isEmpty =>
                          rw [List.isEmpty_iff.mp isEmpty, Child.checkAll]
                          rfl
                      next => exact (verdict_map _ _).trans (verdict_ofChildren children _ _)

theorem verdict_ofChildren
    : ∀ (children : List Child) (top leadNewline : Bool),
        verdict (ofChildren top leadNewline children) = Child.checkAll children
  | [], top, leadNewline => by
      simp only [ofChildren, Child.checkAll]
      rfl
  | first :: rest, top, leadNewline => by
      simp only [ofChildren, Child.checkAll]
      rw [← verdict_ofChild first top leadNewline]
      exact verdict_bind _ _ fun output => (verdict_map _ _).trans (verdict_ofChildren rest _ _)

/-- The nodes that get programs of their own are compiled in order. -/
theorem verdict_ofNested
    : ∀ children : List Child, verdict (ofNested children) = Child.checkAll children
  | [] => by
      simp only [ofNested, Child.checkAll]
      rfl
  | .text _ :: rest | .slot _ :: rest => by
      simp only [ofNested, Child.checkAll, Child.check]
      exact verdict_ofNested rest
  | .branch node children :: rest => by
      simp only [ofNested, Child.checkAll]
      rw [← verdict_ofChild (.branch node children) true false]
      exact verdict_bind _ _ fun output => (verdict_map _ _).trans (verdict_ofNested rest)

end

end Program

variable {group : String}

mutual

/-- The same is wrong with a child when its groups are components, by induction on it. -/
theorem Child.Regroups.check
    : ∀ {child other : Child}, child.Regroups group other → other.check = child.check
  | _, _, .text _ | _, _, .slot _ => rfl
  | .branch node children, .branch other others, .branch nodes inside => by
      have within := Child.Regroups.checkAll inside
      simp only [Child.check, nodes.tag, nodes.isVoid, within]
      cases isTag : node.tag with
      | fragment => simp only [if_true]
      | component name => simp only [reduceCtorEq, if_false]
      | element tag =>
          have same := nodes.placeless (by simp [isTag])
          simp only [reduceCtorEq, if_false]
          rw [← other.staticFault?_placeless, ← Program.ofOpening_placeless other, same,
            node.staticFault?_placeless, Program.ofOpening_placeless]

theorem Child.Regroups.checkAll
    : ∀ {children others : List Child},
        List.Forall₂ (Child.Regroups group) children others
        → Child.checkAll others = Child.checkAll children
  | _, _, .nil => rfl
  | _, _, .cons first rest => by
      simp only [Child.checkAll, Child.Regroups.check first, Child.Regroups.checkAll rest]

end

end TaggedMarkup
