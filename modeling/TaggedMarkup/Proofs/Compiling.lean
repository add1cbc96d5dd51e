import TaggedMarkup.Program.Compile
import TaggedMarkup.Proofs.Outcomes

/-! What a tree that can be compiled compiles to, one case for each way in which a node becomes
a part of a program.
-/

namespace TaggedMarkup

theorem Node.elementName?_element {node : Node} {tag : String}
    (isElement : node.tag = .element tag)
    : node.elementName? = some tag := by
  simp only [elementName?, isElement]

namespace Program

/-- The ways in which a node with its children compiles to a program and to the programs of
nodes inside it.
-/
inductive BranchCompiles (top : Bool) (node : Node) (children : List Child) : Output → Prop
  | fragment {output : Output} (isFragment : node.tag = .fragment)
    (inside : ofChildren top false children = .ok output)
    : BranchCompiles top node children output
  | component {name : String} {programs : List (Nat × Program)}
    (isComponent : node.tag = .component name) (inside : ofNested children = .ok programs)
    : BranchCompiles top node children ([.call (.component node.id)], programs)
  | control {tag : String} {programs : List (Nat × Program)}
    (isElement : node.tag = .element tag) (faultless : node.staticFault? tag = none)
    (isControl : isFormControl tag = true) (inside : ofNested children = .ok programs)
    : BranchCompiles top node children ([.call (.host node.id)], programs)
  | void {tag : String} {opening : Program}
    (isElement : node.tag = .element tag) (faultless : node.staticFault? tag = none)
    (isInline : isFormControl tag = false) (begins : ofOpening node tag top = .ok opening)
    (isVoid : node.isVoid = true)
    : BranchCompiles top node children
        (opening ++ ofContentSource node ++ [.write .selfClose], [])
  | childless {tag : String} {opening : Program}
    (isElement : node.tag = .element tag) (faultless : node.staticFault? tag = none)
    (isInline : isFormControl tag = false) (begins : ofOpening node tag top = .ok opening)
    (isVoid : node.isVoid = false) (isEmpty : children = [])
    : BranchCompiles top node children
        (opening ++ .write .openEnd :: ofContentSource node ++ ofClosing tag, [])
  | around {tag : String} {opening content : Program} {programs : List (Nat × Program)}
    (isElement : node.tag = .element tag) (faultless : node.staticFault? tag = none)
    (isInline : isFormControl tag = false) (begins : ofOpening node tag top = .ok opening)
    (isVoid : node.isVoid = false) (some : children ≠ [])
    (inside
      : ofChildren false (children.length == 1 && Html.eatsNewline tag) children
        = .ok (content, programs))
    : BranchCompiles top node children
        (opening ++ .write .openEnd :: content ++ ofClosing tag, programs)

variable {top leadNewline : Bool} {node : Node} {first : Child} {children rest : List Child}
  {output : Output} {programs : List (Nat × Program)}

/-- A node that can be compiled compiles in one of the ways. -/
theorem ofChild_branch (compiled : ofChild top leadNewline (.branch node children) = .ok output)
    : BranchCompiles top node children output := by
  simp only [ofChild] at compiled
  cases isTag : node.tag with
  | fragment =>
      simp only [isTag] at compiled
      exact .fragment isTag compiled
  | component name =>
      simp only [isTag] at compiled
      obtain ⟨programs, inside, compiled⟩ := exists_of_bind compiled
      obtain rfl := Except.ok.inj compiled
      exact .component isTag inside
  | element tag =>
      simp only [isTag] at compiled
      split at compiled
      next => cases compiled
      next faultless =>
          split at compiled
          next isControl =>
              obtain ⟨programs, inside, compiled⟩ := exists_of_bind compiled
              obtain rfl := Except.ok.inj compiled
              exact .control isTag faultless isControl inside
          next notControl =>
              have isInline : isFormControl tag = false := by simpa using notControl
              obtain ⟨opening, begins, compiled⟩ := exists_of_bind compiled
              split at compiled
              next isVoid =>
                  obtain rfl := Except.ok.inj compiled
                  exact .void isTag faultless isInline begins isVoid
              next notVoid =>
                  have isVoid : node.isVoid = false := by simpa using notVoid
                  split at compiled
                  next isEmpty =>
                      obtain rfl := Except.ok.inj compiled
                      exact .childless isTag faultless isInline begins isVoid
                        (List.isEmpty_iff.mp isEmpty)
                  next some =>
                      obtain ⟨inner, inside, compiled⟩ := exists_of_bind compiled
                      obtain rfl := Except.ok.inj compiled
                      refine .around isTag faultless isInline begins isVoid ?_ inside
                      intro isEmpty
                      exact some (List.isEmpty_iff.mpr isEmpty)

theorem ofChildren_cons (compiled : ofChildren top leadNewline (first :: rest) = .ok output)
    : ∃ start others,
        ofChild top leadNewline first = .ok start
        ∧ ofChildren top leadNewline rest = .ok others
        ∧ output = (start.1 ++ others.1, start.2 ++ others.2) := by
  obtain ⟨start, isStart, compiled⟩ := exists_of_bind compiled
  obtain ⟨others, isOthers, compiled⟩ := exists_of_bind compiled
  exact ⟨start, others, isStart, isOthers, (Except.ok.inj compiled).symm⟩

/-- A nested node gets a program of its own, besides those inside it and those after it. -/
theorem ofNested_branch (compiled : ofNested (.branch node children :: rest) = .ok programs)
    : ∃ output others,
        ofChild true false (.branch node children) = .ok output
        ∧ ofNested rest = .ok others
        ∧ programs = output.2 ++ (node.id, output.1) :: others := by
  obtain ⟨output, isOutput, compiled⟩ := exists_of_bind compiled
  obtain ⟨others, isOthers, compiled⟩ := exists_of_bind compiled
  exact ⟨output, others, isOutput, isOthers, (Except.ok.inj compiled).symm⟩

theorem ofAttributes_cons {entry : Nat} {first : Attribute} {rest : List Attribute}
    {program : Program} (compiled : ofAttributes node entry (first :: rest) = .ok program)
    : ∃ start others,
        ofAttribute node entry first = .ok start
        ∧ ofAttributes node (entry + 1) rest = .ok others
        ∧ program = start ++ others := by
  obtain ⟨start, isStart, compiled⟩ := exists_of_bind compiled
  obtain ⟨others, isOthers, compiled⟩ := exists_of_bind compiled
  exact ⟨start, others, isStart, isOthers, (Except.ok.inj compiled).symm⟩

/-- A selection begins with a call, and any other element with its tag and its attributes. -/
theorem ofOpening_eq {tag : String} {opening : Program}
    (begins : ofOpening node tag top = .ok opening)
    : (tag = "select" ∧ opening = [.call (.selectOpen node.id)])
      ∨ (tag ≠ "select"
        ∧ ∃ attributes,
          ofAttributes node 0 node.attributes = .ok attributes
          ∧ opening
            = .write (.openTag tag) :: attributes ++ if top then [.call .rootMarker] else []) := by
  simp only [ofOpening] at begins
  split at begins
  next isSelect => exact .inl ⟨isSelect, (Except.ok.inj begins).symm⟩
  next notSelect =>
      obtain ⟨attributes, isAttributes, begins⟩ := exists_of_bind begins
      exact .inr ⟨notSelect, attributes, isAttributes, (Except.ok.inj begins).symm⟩

theorem ofTree_eq {tree : Tree} {components : List (Nat × Component)} {form : Compiled}
    (compiled : Compiled.ofTree tree components = .ok form)
    : ∃ output,
        ofChildren true false tree.roots = .ok output
        ∧ form = ⟨tree, components, output.1, output.2⟩ := by
  obtain ⟨output, isOutput, compiled⟩ := exists_of_bind compiled
  exact ⟨output, isOutput, (Except.ok.inj compiled).symm⟩

end Program

/-- What a compiled template renders: its roots, or one node in it that has its own program. -/
def Compiled.roots (form : Compiled) : Option Nat → List Child
  | none => form.tree.roots
  | some id =>
      if (form.programs.lookup id).isSome then
        (form.tree.branch? id).toList.map fun branch => .branch branch.node branch.children
      else
        []

end TaggedMarkup
