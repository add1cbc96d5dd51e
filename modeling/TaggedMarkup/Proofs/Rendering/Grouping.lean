import TaggedMarkup.Proofs.Checking
import TaggedMarkup.Proofs.Supplied
import TaggedMarkup.Proofs.Caching.Freshness
import TaggedMarkup.Proofs.Likeness.Scripts
import TaggedMarkup.Proofs.Rendering.Abreast

/-! The children of a group are compiled where they stand. Those of a component are handed to it
as values, with programs of their own. A component that renders just its children writes what the
group writes: the two are rendered abreast, however deep they are nested.
-/

namespace TaggedMarkup

open Render Stateful

variable {group : String}

-----------------------------------------------------------------------------------------
-- Children that are handed on
-----------------------------------------------------------------------------------------

/-- A node among children is one of their nodes. -/
theorem Child.mem_branchesOf {node : Node} {children siblings : List Child}
    (member : .branch node children ∈ siblings)
    : ⟨node, children⟩ ∈ Child.branchesOf siblings := by
  induction siblings with
  | nil => cases member
  | cons first rest ih =>
      rcases List.mem_cons.mp member with rfl | later
      · exact List.mem_append_left _ (List.mem_cons_self ..)
      · exact List.mem_append_right _ (ih later)

/-- Whether the children of a node are handed on as values. -/
def Node.handsOn (node : Node) : Bool :=
  node.isComponent || node.elementName?.any Program.isFormControl

/-- The nodes that are handed on as values have programs. -/
def Program.Reaches (programs : List (Nat × Program)) (branches : List Branch) : Prop :=
  ∀ branch ∈ branches,
    branch.node.handsOn = true
    → ∀ node children,
      .branch node children ∈ branch.children
      → ∃ program, (node.id, program) ∈ programs

namespace Program.Reaches

variable {programs more : List (Nat × Program)} {branches : List Branch} {node : Node}
  {children : List Child}

theorem mono (reaches : Reaches programs branches) (subset : programs ⊆ more)
    : Reaches more branches := by
  intro branch member handsOn node children inside
  obtain ⟨program, isProgram⟩ := reaches branch member handsOn node children inside
  exact ⟨program, subset isProgram⟩

theorem append {others : List Branch} (first : Reaches programs branches)
    (second : Reaches programs others)
    : Reaches programs (branches ++ others) := by
  intro branch member
  rcases List.mem_append.mp member with early | late
  · exact first branch early
  · exact second branch late

/-- A node that hands on its children has programs for them. -/
theorem handing (inside : Reaches programs (Child.branchesOf children))
    (compiled : ofNested children = .ok programs)
    : Reaches programs (Child.branches (.branch node children)) := by
  intro branch member handsOn
  rcases List.mem_cons.mp member with rfl | member
  · exact fun node children isChild => Compiled.ofNested_program compiled isChild
  · exact inside branch member handsOn

/-- A node that does not hand on its children needs no programs for them. -/
theorem keeping (keeps : node.handsOn = false)
    (inside : Reaches programs (Child.branchesOf children))
    : Reaches programs (Child.branches (.branch node children)) := by
  intro branch member handsOn
  rcases List.mem_cons.mp member with rfl | member
  · cases keeps.symm.trans handsOn
  · exact inside branch member handsOn

end Program.Reaches

namespace Program

/-- Void elements have nothing inside them. -/
def Childless (branches : List Branch) : Prop :=
  ∀ branch ∈ branches, branch.node.isVoid = true → branch.children = []

theorem Childless.left {branches others : List Branch} (childless : Childless (branches ++ others))
    : Childless branches :=
  fun branch member => childless branch (List.mem_append_left _ member)

theorem Childless.right {branches others : List Branch} (childless : Childless (branches ++ others))
    : Childless others :=
  fun branch member => childless branch (List.mem_append_right _ member)

mutual

/-- A child compiles to programs for all that is handed on in it, by induction on it. -/
theorem reaches_ofChild
    : ∀ child {top leadNewline output},
        Childless child.branches
        → ofChild top leadNewline child = .ok output
        → Reaches output.2 child.branches
  | .text _, _, _, _, _, _ | .slot _, _, _, _, _, _ => fun _ member => nomatch member
  | .branch node children, top, leadNewline, output, childless, compiled => by
      have within : Childless (Child.branchesOf children) :=
        fun branch member => childless branch (List.mem_cons_of_mem _ member)
      cases ofChild_branch compiled with
      | fragment isFragment inside =>
          refine .keeping ?_ (reaches_ofChildren children within inside)
          simp [Node.handsOn, Node.isComponent, Node.elementName?, isFragment]
      | component _ inside | control _ _ _ inside =>
          exact .handing (reaches_ofNested children within inside) inside
      | void isElement _ isInline _ isVoid =>
          have none := childless ⟨node, children⟩ (List.mem_cons_self ..) isVoid
          obtain rfl : children = [] := none
          refine .keeping ?_ fun _ member => nomatch member
          simp [Node.handsOn, Node.isComponent, Node.elementName?, isElement, isInline]
      | childless isElement _ isInline _ _ isEmpty =>
          obtain rfl := isEmpty
          refine .keeping ?_ fun _ member => nomatch member
          simp [Node.handsOn, Node.isComponent, Node.elementName?, isElement, isInline]
      | around isElement _ isInline _ _ _ inside =>
          have reaches := reaches_ofChildren children within inside
          refine .keeping ?_ reaches
          simp [Node.handsOn, Node.isComponent, Node.elementName?, isElement, isInline]

theorem reaches_ofChildren
    : ∀ children {top leadNewline output},
        Childless (Child.branchesOf children)
        → ofChildren top leadNewline children = .ok output
        → Reaches output.2 (Child.branchesOf children)
  | [], _, _, _, _, _ => fun _ member => nomatch member
  | first :: rest, top, leadNewline, output, childless, compiled => by
      obtain ⟨start, others, isStart, isOthers, rfl⟩ := ofChildren_cons compiled
      have here := reaches_ofChild first childless.left isStart
      have later := reaches_ofChildren rest childless.right isOthers
      exact (here.mono (List.subset_append_left ..)).append
        (later.mono (List.subset_append_right ..))

theorem reaches_ofNested
    : ∀ children {programs},
        Childless (Child.branchesOf children)
        → ofNested children = .ok programs
        → Reaches programs (Child.branchesOf children)
  | [], _, _, _ => fun _ member => nomatch member
  | .text _ :: rest, programs, childless, compiled
  | .slot _ :: rest, programs, childless, compiled => by
      exact reaches_ofNested rest childless compiled
  | .branch node children :: rest, programs, childless, compiled => by
      obtain ⟨output, others, isOutput, isOthers, rfl⟩ := ofNested_branch compiled
      have here := reaches_ofChild (.branch node children) childless.left isOutput
      have later := reaches_ofNested rest childless.right isOthers
      refine (here.mono (List.subset_append_left ..)).append (later.mono ?_)
      exact fun program member => List.mem_append_right _ (List.mem_cons_of_mem _ member)

end

end Program

-----------------------------------------------------------------------------------------
-- Templates
-----------------------------------------------------------------------------------------

namespace Compiled.MadeOf

variable {form : Compiled} {registry : Registry} {options : ReadOptions} {fragments : List String}

theorem genuine (made : form.MadeOf registry options fragments) : form.Genuine :=
  ⟨⟨registry.resolver, options, fragments, made.parsed⟩, made.compiled⟩

/-- A component node has the component of its name. -/
theorem component_eq (made : form.MadeOf registry options fragments) {branch : Branch}
    (member : branch ∈ form.tree.branches) {name : String}
    (isComponent : branch.node.tag = .component name)
    : form.component? branch.node.id = registry.find? name := by
  obtain ⟨component, isHere⟩ := Option.isSome_iff_exists.mp (made.component member isComponent)
  obtain ⟨before, after, listed, -⟩ := List.lookup_eq_some_iff.mp isHere
  have inside : (branch.node.id, component) ∈ registry.componentsOf form.tree := by
    rw [← made.components, listed]
    simp
  obtain ⟨other, isOther, found⟩ := List.mem_filterMap.mp inside
  have read := Tree.parse_read made.parsed
  split at found
  next other' isTag =>
      obtain ⟨component', isFound, same⟩ := Option.map_eq_some_iff.mp found
      obtain ⟨sameId, rfl⟩ := Prod.mk.inj same
      have here := read.branch?_id isOther
      rw [sameId, read.branch?_id member] at here
      obtain rfl := Option.some.inj here
      obtain rfl := Tag.component.inj (isComponent.symm.trans isTag)
      rw [isHere, isFound]
  next => cases found

/-- A node that is handed on to another one is what its number stands for. -/
theorem roots_handed (made : form.MadeOf registry options fragments) {branch : Branch}
    (member : branch ∈ form.tree.branches) (handsOn : branch.node.handsOn = true) {node : Node}
    {children : List Child} (isChild : .branch node children ∈ branch.children)
    : form.roots (some node.id) = [.branch node children] := by
  have read := Tree.parse_read made.parsed
  obtain ⟨output, isOutput, isForm⟩ := Program.ofTree_eq made.compiled
  have programs : form.programs = output.2 := by rw [isForm]
  have childless : Program.Childless (Child.branchesOf form.tree.roots) :=
    fun branch member => (read.roots.branches branch member).childless
  obtain ⟨program, isProgram⟩ :=
    Program.reaches_ofChildren _ childless isOutput branch member handsOn node children isChild
  have found : (form.programs.lookup node.id).isSome = true :=
    List.lookup_isSome_iff.mpr ⟨_, programs ▸ isProgram, by simp⟩
  have inside : ⟨node, children⟩ ∈ form.tree.branches :=
    Child.branchesOf_inside _ member (Child.mem_branchesOf isChild)
  simp only [Compiled.roots, found, if_true, read.branch?_id inside, Option.toList_some,
    List.map_cons, List.map_nil]

end Compiled.MadeOf

/-- Two compiled templates are the same, except that the groups of one are components in the
other. The tags of groups have no attributes.
-/
structure Compiled.Regroups (registry : Registry) (options : ReadOptions) (group : String)
    (form other : Compiled)
    : Prop where
  made : ∃ fragments, form.MadeOf registry options fragments
  made' : ∃ fragments, other.MadeOf registry options fragments
  isGroup : registry.find? group = some .fragment
  roots : List.Forall₂ (Child.Regroups group) form.tree.roots other.tree.roots
  bare : ∀ branch ∈ form.tree.branches, branch.node.tag = .fragment → branch.node.attributes = []

/-- A part of one of two templates stands for the same part of the other. -/
def Compiled.StandsFor (group : String) (form other : Compiled) (part part' : Part) : Prop :=
  part = part'
  ∨ (part.1 = form
    ∧ part'.1 = other
    ∧ part.2 = part'.2
    ∧ List.Forall₂ (Child.Regroups group) (form.roots part.2) (other.roots part'.2))

-----------------------------------------------------------------------------------------
-- Nodes
-----------------------------------------------------------------------------------------

section

variable {standsFor : Part → Part → Prop} {slots slots' : Slots} {cx : RenderSettings}
  {inside : Prop} {node node' : Node}

namespace Render.SlotsLike

/-- A node begins in both, although it may be the first element of a program only in the second.
Then it is inside of an element, and the mark has been dealt with.
-/
theorem openNode (alike : SlotsLike standsFor slots slots')
    (same : node'.placeless = node.placeless) (tag : String) {top top' : Bool}
    (lower : top = true → top' = true) (around : top = false → inside)
    : Abreast standsFor inside True (slots.openNode cx node tag top)
        (slots'.openNode cx node' tag top') := by
  rw [← slots'.openNode_placeless node', same, slots'.openNode_placeless]
  simp only [Slots.openNode]
  split
  · exact alike.openSelection node
  · have written := node.emissionsFrom_like alike.values 0 node.attributes
    simp only [Node.emissions, WrittenAttribute.ofProps_like written]
    refine (Abreast.write _).andThen ((Abreast.writeOrFail _).andThen ?_)
    cases top with
    | true =>
        simp only [lower rfl, if_true]
        exact .writeRootMarker _
    | false =>
        have marked : True → inside := fun _ => around rfl
        cases top' with
        | true => exact (Abreast.noRootMarker _).weaken marked id
        | false => exact Abreast.nothing.weaken marked id

theorem renderGiven (alike : SlotsLike standsFor slots slots')
    (same : node'.placeless = node.placeless)
    : Abreast standsFor inside inside (slots.renderGiven cx node)
        (slots'.renderGiven cx node') := by
  rw [← slots'.renderGiven_placeless node', same, slots'.renderGiven_placeless]
  simp only [Slots.renderGiven]
  split
  · exact alike.renderContent node
  · exact .nothing

/-- Calling a component that is the same in both templates. -/
theorem callComponent {invoke invoke' : Invoke} (alike : SlotsLike standsFor slots slots')
    (invokes : InvokeLike standsFor invoke invoke')
    (same : node'.placeless = node.placeless) {children children' : List Child}
    (nested
      : Value.AllLike standsFor (children.map slots.childValue)
          (children'.map slots'.childValue))
    (component : slots.template.component? node.id = slots'.template.component? node.id)
    : Abreast standsFor inside inside
        (slots.callNode cx invoke ⟨node, children⟩ (.component node.id))
        (slots'.callNode cx invoke' ⟨node', children'⟩ (.component node'.id)) := by
  have sameId : node'.id = node.id := by simpa only [Node.placeless] using congrArg Node.id same
  have sameProps : slots'.nodeProps ⟨node', children'⟩ = slots'.nodeProps ⟨node, children'⟩ := by
    rw [← slots'.nodeProps_placeless node', same, slots'.nodeProps_placeless]
  have called
      : slots'.callNode cx invoke' ⟨node', children'⟩ (.component node'.id)
        = slots'.callNode cx invoke' ⟨node, children'⟩ (.component node.id) := by
    simp only [Slots.callNode, sameId, sameProps]
  rw [called]
  refine alike.callNode invokes nested fun id same => ?_
  rw [← Call.component.inj same, component]

end Render.SlotsLike

/-- What a node without attributes hands on is just its children. -/
theorem Slots.renderChildren_bare {invoke : Invoke} (slots : Slots) (bare : node.attributes = [])
    (children : List Child)
    : renderChildren (renderValue cx invoke) (slots.nodeProps ⟨node, children⟩).2
      = renderItems cx invoke (children.map slots.childValue) := by
  have none : node.props slots.values = [] := by
    simp only [Node.props, Node.sources, bare, List.flatMap_nil]
    rfl
  simp only [nodeProps, none]
  cases children with
  | nil =>
      simp only [List.isEmpty_nil, if_true, List.map_nil, renderItems]
      rfl
  | cons first rest =>
      simp only [List.isEmpty_cons, Bool.false_eq_true, if_false, renderChildren,
        Fields.get?_insert, if_true]
      exact renderValue_ofChildren _

end

-----------------------------------------------------------------------------------------
-- Children
-----------------------------------------------------------------------------------------

/-- The slots of a bound template in which the given number of components may be nested. -/
abbrev Markup.slots (cx : RenderSettings) (limit : Nat) (markup : Markup) : Slots :=
  Slots.bound cx (invoke cx limit) markup

/-- Renders a child of a bound template where it stands. -/
abbrev Markup.renderNode (cx : RenderSettings) (limit : Nat) (markup : Markup)
    (top leadNewline : Bool) (child : Child)
    : Render Unit :=
  (markup.slots cx limit).renderNode cx (invoke cx limit) top leadNewline child

abbrev Markup.renderNodes (cx : RenderSettings) (limit : Nat) (markup : Markup)
    (top leadNewline : Bool) (children : List Child)
    : Render Unit :=
  (markup.slots cx limit).renderNodes cx (invoke cx limit) top leadNewline children

/-- Two moves are made abreast in the renders of two templates of which one stands for the other. -/
abbrev Markup.Abreast (group : String) (markup markup' : Markup) (inside : Prop)
    (first second : Render Unit)
    : Prop :=
  Render.Abreast (Compiled.StandsFor group markup.template markup'.template) inside inside first
    second

/-- Two templates are bound to values that are alike, and the groups of one are components in the
other. However deep the second render is nested, their slots are rendered alongside.
-/
structure Markup.Regroups (cx : RenderSettings) (registry : Registry) (options : ReadOptions)
    (group : String) (remaining : Nat) (markup markup' : Markup)
    : Prop where
  templates : markup.template.Regroups registry options group markup'.template
  invokes
    : ∀ limit,
        InvokeLike (Compiled.StandsFor group markup.template markup'.template)
          (invoke cx remaining) (invoke cx limit)
  slots
    : ∀ limit,
        SlotsLike (Compiled.StandsFor group markup.template markup'.template)
          (markup.slots cx remaining) (markup'.slots cx limit)

namespace Markup.Regroups

variable {cx : RenderSettings} {registry : Registry} {options : ReadOptions} {remaining : Nat}
  {markup markup' : Markup} {inside : Prop}

/-- What two nodes hand on is alike. -/
theorem childValues (regroups : markup.Regroups cx registry options group remaining markup')
    (limit : Nat) {branch branch' : Branch} (member : branch ∈ markup.template.tree.branches)
    (member' : branch' ∈ markup'.template.tree.branches) (handsOn : branch.node.handsOn = true)
    (handsOn' : branch'.node.handsOn = true)
    (inside : List.Forall₂ (Child.Regroups group) branch.children branch'.children)
    : Value.AllLike (Compiled.StandsFor group markup.template markup'.template)
        (branch.children.map (markup.slots cx remaining).childValue)
        (branch'.children.map (markup'.slots cx limit).childValue) := by
  obtain ⟨fragments, made⟩ := regroups.templates.made
  obtain ⟨fragments', made'⟩ := regroups.templates.made'
  have alike := regroups.slots limit
  have handed {node : Node} {children : List Child}
      (isChild : .branch node children ∈ branch.children) :=
    made.roots_handed member handsOn isChild
  have handed' {node : Node} {children : List Child}
      (isChild : .branch node children ∈ branch'.children) :=
    made'.roots_handed member' handsOn' isChild
  generalize branch.children = children, branch'.children = children' at inside handed handed' ⊢
  induction inside with
  | nil => exact .nil
  | cons first rest ih =>
      have later := ih (fun isChild => handed (List.mem_cons_of_mem _ isChild))
        (fun isChild => handed' (List.mem_cons_of_mem _ isChild))
      refine .cons ?_ later
      cases first with
      | text text => exact .string text
      | slot slot => exact alike.value slot
      | @branch node node' children children' nodes within =>
          simp only [Slots.childValue, alike.serial]
          refine .markup (.inr ⟨rfl, rfl, congrArg some nodes.id.symm, ?_⟩) alike.values
          have here := handed (List.mem_cons_self ..)
          have here' := handed' (List.mem_cons_self ..)
          simp only [here, here']
          exact .cons (.branch nodes within) .nil

/-- A child that is handed to a component is rendered as it is where it stands. -/
theorem renderChildValue (regroups : markup.Regroups cx registry options group remaining markup')
    {limit : Nat} {top : Bool} {child child' : Child} (children : child.Regroups group child')
    (someText : child ≠ .text "")
    (handed
      : ∀ node inner,
          child' = .branch node inner → markup'.template.roots (some node.id) = [child'])
    (stands
      : markup.Abreast group markup' inside (markup.renderNode cx remaining top false child)
          (markup'.renderNode cx limit true false child'))
    : markup.Abreast group markup' inside (markup.renderNode cx remaining top false child)
        (renderValue cx (invoke cx limit) ((markup'.slots cx limit).childValue child')) := by
  cases children with
  | text text =>
      have notEmpty : text.isEmpty = false := by
        cases isEmpty : text.isEmpty with
        | false => rfl
        | true => exact absurd (by rw [String.isEmpty_iff.mp isEmpty]) someText
      simp only [Slots.childValue, renderValue, renderText, notEmpty, Bool.false_eq_true, if_false,
        Slots.renderNode]
      exact .writeText _ _
  | slot slot =>
      have same
          : renderValue cx (invoke cx limit) ((markup'.slots cx limit).childValue (.slot slot))
            = (markup'.slots cx limit).renderSlot slot :=
        (Slots.renderSource_bound (.slot slot)).symm
      rw [same]
      simp only [Slots.renderNode, renderChild, Bool.false_and, Bool.false_eq_true, if_false]
      exact (regroups.slots limit).slot slot inside
  | @branch node node' inner inner' nodes within =>
      obtain ⟨fragments, made⟩ := regroups.templates.made'
      have alike :=
        @Slots.render_alike cx (invoke cx limit) (markup'.slots cx limit) made.genuine
          (some node'.id)
      simp only [Slots.bound, handed node' inner' rfl, Slots.renderNodes, bind_pure_unit] at alike
      simp only [Slots.childValue, Slots.renderValue_markup]
      exact stands.right alike

/-- A component that renders just its children writes what the children of a group are. -/
theorem renderComponent (regroups : markup.Regroups cx registry options group remaining markup')
    {node : Node} {children : List Child}
    (member : ⟨node, children⟩ ∈ markup'.template.tree.branches)
    (isComponent : node.tag = .component group) (bare : node.attributes = []) {first : Render Unit}
    (stands
      : ∀ limit,
          markup.Abreast group markup' inside first
            (renderItems cx (invoke cx limit)
              (children.map (markup'.slots cx limit).childValue)))
    (limit : Nat)
    : markup.Abreast group markup' inside first
        ((markup'.slots cx limit).callNode cx (invoke cx limit) ⟨node, children⟩
          (.component node.id)) := by
  obtain ⟨fragments, made⟩ := regroups.templates.made'
  have component : markup'.template.component? node.id = some .fragment :=
    (made.component_eq member isComponent).trans regroups.templates.isGroup
  cases limit with
  | zero =>
      simp only [Slots.callNode, Slots.bound, component]
      exact fun state other _ => .limited' cx.options.maxDepth other _
  | succ limit =>
      have nested :=
        @Slots.renderChildren_bare cx node (invoke cx limit) (markup'.slots cx limit) bare children
      simp only [Slots.callNode, Slots.bound, component, invoke, Render.renderComponent]
      refine Abreast.nest cx.options ?_
      have same := stands limit
      rw [← nested] at same
      exact same

/-- An element that is compiled inline is rendered abreast when its children are. -/
theorem renderInline (regroups : markup.Regroups cx registry options group remaining markup')
    {node node' : Node} (same : node'.placeless = node.placeless) {tag : String}
    (isElement : node.tag = .element tag) (isElement' : node'.tag = .element tag)
    (isInline : Program.isFormControl tag = false) {children children' : List Child}
    (length : children.length = children'.length) {limit : Nat}
    (inner
      : ∀ leadNewline,
          markup.Abreast group markup' True
            (markup.renderNodes cx remaining false leadNewline children)
            (markup'.renderNodes cx limit false leadNewline children'))
    {top top' leadNewline : Bool} (lower : top = true → top' = true) (around : top = false → inside)
    : markup.Abreast group markup' inside
        (markup.renderNode cx remaining top leadNewline (.branch node children))
        (markup'.renderNode cx limit top' leadNewline (.branch node' children')) := by
  have alike := regroups.slots limit
  have isVoid : node'.isVoid = node.isVoid := by
    simpa only [Node.placeless] using congrArg Node.isVoid same
  have isEmpty : children'.isEmpty = children.isEmpty := by
    rw [Bool.eq_iff_iff, List.isEmpty_iff_length_eq_zero, List.isEmpty_iff_length_eq_zero, length]
  -- Inside of the element, the mark has been dealt with in both.
  have enclosed {rest rest' : Render Unit} (inner : markup.Abreast group markup' True rest rest')
      : markup.Abreast group markup' inside
          (do
            (markup.slots cx remaining).openNode cx node tag top
            rest)
          (do
            (markup'.slots cx limit).openNode cx node' tag top'
            rest') :=
    (alike.openNode same tag lower around).andThen (inner.weaken id fun _ => trivial)
  cases isVoidNode : node.isVoid with
  | true =>
      simp only [Markup.renderNode, Slots.renderNode_void isElement isInline isVoidNode,
        Slots.renderNode_void isElement' isInline (isVoid.trans isVoidNode)]
      exact enclosed ((alike.renderGiven same).andThen (.write _))
  | false =>
      simp only [Markup.renderNode, Slots.renderNode_around isElement isInline isVoidNode,
        Slots.renderNode_around isElement' isInline (isVoid.trans isVoidNode), isEmpty, length]
      refine enclosed ((Abreast.write _).andThen (.andThen ?_ (.endHost tag)))
      split
      · exact alike.renderGiven same
      · exact inner _

mutual

/-- A child is rendered abreast wherever it stands, by induction on it. -/
theorem renderNode (regroups : markup.Regroups cx registry options group remaining markup')
    : ∀ {child child' : Child},
        child.Regroups group child'
        → (∀ branch ∈ child.branches, branch ∈ markup.template.tree.branches)
        → (∀ branch ∈ child'.branches, branch ∈ markup'.template.tree.branches)
        → ∀ {top top' : Bool} {inside : Prop} (leadNewline : Bool) (limit : Nat),
          (top = true → top' = true)
          → (top = false → inside)
          → markup.Abreast group markup' inside
              (markup.renderNode cx remaining top leadNewline child)
              (markup'.renderNode cx limit top' leadNewline child')
  | _, _, .text text, _, _, _, _, _, _, _, _, _ => by
      simp only [Slots.renderNode]
      exact .writeText _ _
  | _, _, .slot slot, _, _, _, _, inside, _, limit, _, _ => by
      have alike := regroups.slots limit
      simp only [Slots.renderNode]
      exact .renderChild _ (alike.value slot) (alike.slot slot inside)
  | .branch node children, .branch node' children', .branch nodes within, member, member', top,
      top', inside, leadNewline, limit, lower, around => by
      have alike := regroups.slots limit
      have here := member ⟨node, children⟩ (List.mem_cons_self ..)
      have here' := member' ⟨node', children'⟩ (List.mem_cons_self ..)
      have isInside
          : ∀ branch ∈ Child.branchesOf children, branch ∈ markup.template.tree.branches :=
        fun branch isInside => member branch (List.mem_cons_of_mem _ isInside)
      have isInside'
          : ∀ branch ∈ Child.branchesOf children', branch ∈ markup'.template.tree.branches :=
        fun branch isInside => member' branch (List.mem_cons_of_mem _ isInside)
      obtain ⟨fragments, made⟩ := regroups.templates.made
      obtain ⟨fragments', made'⟩ := regroups.templates.made'
      have nested (handsOn : node.handsOn = true) (handsOn' : node'.handsOn = true) :=
        regroups.childValues limit here here' handsOn handsOn' within
      have isTag' := nodes.tag
      cases isTag : node.tag with
      | fragment =>
          rw [if_pos isTag] at isTag'
          have bare : node'.attributes = [] := by
            have none : node.attributes = [] := regroups.templates.bare _ here isTag
            simpa [none] using nodes.attributes
          have handsOn : node'.handsOn = true := by
            simp [Node.handsOn, Node.isComponent, isTag']
          have read := (Tree.parse_read made.parsed).roots.branches _ here
          have children limit :=
            renderGroup regroups within isInside isInside' (fun empty => read.texts "" empty rfl)
              (fun node inner isChild => made'.roots_handed here' handsOn isChild) limit around
          simp only [Markup.renderNode, Slots.renderNode_fragment isTag,
            Slots.renderNode_component isTag']
          exact regroups.renderComponent here' isTag' bare children limit
      | component name =>
          have same := nodes.placeless (by simp [isTag])
          rw [if_neg (by simp [isTag]), isTag] at isTag'
          have component
              : markup.template.component? node.id = markup'.template.component? node.id := by
            rw [made.component_eq here isTag, ← nodes.id, made'.component_eq here' isTag']
          simp only [Markup.renderNode, Slots.renderNode_component isTag,
            Slots.renderNode_component isTag']
          refine alike.callComponent (regroups.invokes limit) same ?_ component
          exact nested (by simp [Node.handsOn, Node.isComponent, isTag])
            (by simp [Node.handsOn, Node.isComponent, isTag'])
      | element tag =>
          have same := nodes.placeless (by simp [isTag])
          rw [if_neg (by simp [isTag]), isTag] at isTag'
          cases isControl : Program.isFormControl tag with
          | true =>
              have handed := nested (by simp [Node.handsOn, Node.elementName?, isTag, isControl])
                (by simp [Node.handsOn, Node.elementName?, isTag', isControl])
              have sameProps
                  : (markup'.slots cx limit).nodeProps ⟨node', children'⟩
                    = (markup'.slots cx limit).nodeProps ⟨node, children'⟩ := by
                rw [← Slots.nodeProps_placeless node', same, Slots.nodeProps_placeless]
              simp only [Markup.renderNode, Slots.renderNode_control isTag isControl,
                Slots.renderNode_control isTag' isControl, sameProps]
              exact .renderControl tag (alike.nodeProps node handed).2
          | false =>
              refine regroups.renderInline same isTag isTag' isControl within.length_eq ?_ lower
                around
              intro leadNewline
              exact renderNodes regroups within isInside isInside' leadNewline limit id
                fun _ => trivial

theorem renderNodes (regroups : markup.Regroups cx registry options group remaining markup')
    : ∀ {children children' : List Child},
        List.Forall₂ (Child.Regroups group) children children'
        → (∀ branch ∈ Child.branchesOf children, branch ∈ markup.template.tree.branches)
        → (∀ branch ∈ Child.branchesOf children', branch ∈ markup'.template.tree.branches)
        → ∀ {top top' : Bool} {inside : Prop} (leadNewline : Bool) (limit : Nat),
          (top = true → top' = true)
          → (top = false → inside)
          → markup.Abreast group markup' inside
              (markup.renderNodes cx remaining top leadNewline children)
              (markup'.renderNodes cx limit top' leadNewline children')
  | _, _, .nil, _, _, _, _, _, _, _, _, _ => by
      simp only [Slots.renderNodes]
      exact .nothing
  | _, _, .cons first rest, member, member', _, _, _, leadNewline, limit, lower, around => by
      have here := renderNode regroups first
        (fun branch isHere => member branch (List.mem_append_left _ isHere))
        (fun branch isHere => member' branch (List.mem_append_left _ isHere)) leadNewline limit
        lower around
      have later := renderNodes regroups rest
        (fun branch isLater => member branch (List.mem_append_right _ isLater))
        (fun branch isLater => member' branch (List.mem_append_right _ isLater)) leadNewline limit
        lower around
      simp only [Slots.renderNodes]
      exact here.andThen later

/-- The children of a group are rendered abreast with those that are handed to a component. -/
theorem renderGroup (regroups : markup.Regroups cx registry options group remaining markup')
    : ∀ {children children' : List Child},
        List.Forall₂ (Child.Regroups group) children children'
        → (∀ branch ∈ Child.branchesOf children, branch ∈ markup.template.tree.branches)
        → (∀ branch ∈ Child.branchesOf children', branch ∈ markup'.template.tree.branches)
        → .text "" ∉ children
        → (∀ node inner,
            .branch node inner ∈ children'
            → markup'.template.roots (some node.id) = [.branch node inner])
        → ∀ {top : Bool} {inside : Prop} (limit : Nat),
          (top = false → inside)
          → markup.Abreast group markup' inside
              (markup.renderNodes cx remaining top false children)
              (renderItems cx (invoke cx limit)
                (children'.map (markup'.slots cx limit).childValue))
  | _, _, .nil, _, _, _, _, _, _, _, _ => by
      simp only [Slots.renderNodes, List.map_nil, renderItems]
      exact .nothing
  | _, _, .cons first rest, member, member', someText, handed, top, inside, limit, around => by
      have here := renderNode regroups first
        (fun branch isHere => member branch (List.mem_append_left _ isHere))
        (fun branch isHere => member' branch (List.mem_append_left _ isHere)) false limit
        (fun _ => rfl) around
      have value := regroups.renderChildValue first
        (fun isEmpty => someText (isEmpty ▸ List.mem_cons_self ..))
        (fun node inner isBranch => isBranch ▸ handed node inner (isBranch ▸ List.mem_cons_self ..))
        here
      have later := renderGroup regroups rest
        (fun branch isLater => member branch (List.mem_append_right _ isLater))
        (fun branch isLater => member' branch (List.mem_append_right _ isLater))
        (fun isLater => someText (List.mem_cons_of_mem _ isLater))
        (fun node inner isLater => handed node inner (List.mem_cons_of_mem _ isLater)) limit
        around
      simp only [Slots.renderNodes, List.map_cons, renderItems]
      exact value.andThen later

end

end Markup.Regroups

-----------------------------------------------------------------------------------------
-- Engines
-----------------------------------------------------------------------------------------

namespace Compiled.Regroups

variable {registry : Registry} {options : ReadOptions} {form other : Compiled}
  {cx : RenderSettings}

/-- Where one of the templates stands for the other, they are rendered alongside. -/
theorem interchangeable (templates : form.Regroups registry options group other)
    : Interchangeable cx (StandsFor group form other) := by
  rintro remaining markup markup' (same | ⟨isForm, isOther, entry, roots⟩) invokes slots limit
  · obtain ⟨sameForm, sameEntry⟩ := Prod.mk.inj same
    rw [← sameEntry]
    exact (slots limit).render (invokes limit) sameForm (fun _ => .inl rfl) markup.entry
  · obtain rfl : markup.template = form := isForm
    obtain rfl : markup'.template = other := isOther
    have regroups : markup.Regroups cx registry options group remaining markup' :=
      ⟨templates, invokes, slots⟩
    obtain ⟨fragments, made⟩ := templates.made
    obtain ⟨fragments', made'⟩ := templates.made'
    have alike :=
      @Slots.render_alike cx (invoke cx remaining) (markup.slots cx remaining) made.genuine
        markup.entry
    have alike' :=
      @Slots.render_alike cx (invoke cx limit) (markup'.slots cx limit) made'.genuine markup'.entry
    intro inside
    refine .left alike (.right alike' ?_)
    exact regroups.renderNodes roots (fun _ member => markup.template.branches_roots _ member)
      (fun _ member => markup'.template.branches_roots _ member) false limit id nofun

/-- The templates are rendered abreast with the same values. -/
theorem render (templates : form.Regroups registry options group other)
    (parametric : cx.host.Parametric) (serial : Nat) (values : List Value)
    : Alongside (StandsFor group form other)
        (renderRoot cx (.markup ⟨serial, form, values, none⟩))
        (renderRoot cx (.markup ⟨serial, other, values, none⟩)) := by
  have same (part : Part) : StandsFor group form other part part := .inl rfl
  refine render_like same (parametric _ same) templates.interchangeable ?_
  exact .markup (.inr ⟨rfl, rfl, rfl, templates.roots⟩) (Value.AllLike.refl same values)

end Compiled.Regroups

namespace Engine

variable {engine : Engine} {host : Host}

end Engine

end TaggedMarkup
