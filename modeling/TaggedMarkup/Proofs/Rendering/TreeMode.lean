import TaggedMarkup.Proofs.Caching.Freshness
import TaggedMarkup.Proofs.Caching.Origin
import TaggedMarkup.Proofs.Rendering.Controls
import TaggedMarkup.Proofs.Rendering.Elements

/-! A plain template can be rendered by its program, or made into elements that are rendered
from their properties. Whenever its program succeeds, rendering the elements does the same. The
programs leave out the marker inside of elements, where it has been written already.
-/

namespace TaggedMarkup

open Stateful

-----------------------------------------------------------------------------------------
-- Moves that are done again
-----------------------------------------------------------------------------------------

namespace Render

/-- Two states are the same, and an element has been written in them if one is around. -/
structure Same (within : Bool) (state other : RenderState) : Prop where
  same : other = state
  marked : within = true → state.rootMarked = true

/-- Inside of an element an element has been written. -/
theorem Same.leave {within : Bool} {state other : RenderState} (same : Same true state other)
    : Same within state other :=
  ⟨same.same, fun _ => same.marked rfl⟩

/-- From every state the second move does what the first does when that succeeds. Inside of an
element neither forgets that an element has been written.
-/
abbrev Redoes (within : Bool) (first second : Render Unit) : Prop :=
  Matches False (Same within) (Same within) first second

/-- A move that succeeds does not forget that an element has been written. -/
def Steady (move : Render Unit) : Prop :=
  ∀ state reached,
    move state = (.ok (), reached) → state.rootMarked = true → reached.rootMarked = true

/-- A move that goes together with itself is steady. -/
theorem Together.steady {related : Store → Store → Prop} (same : ∀ store, related store store)
    {move : Render Unit} (together : Together (fun _ => True) related move move)
    : Steady move := by
  intro state reached ends
  obtain ⟨result, last, store, left, -, -, -, marked, -⟩ :=
    together state state.store (same _) state.provides_true
  obtain ⟨-, rfl⟩ := Prod.mk.inj (ends.symm.trans left)
  exact marked

theorem Steady.redoes {move : Render Unit} (steady : Steady move) (within : Bool)
    : Redoes within move move := by
  rintro state other ⟨rfl, marked⟩
  exact ⟨fun reached ends => ⟨reached, ends, rfl, fun within => steady _ _ ends (marked within)⟩,
    False.elim⟩

variable {cx : RenderSettings} {within : Bool}

theorem redoes_write (piece : Piece) : Redoes within (write piece) (write piece) :=
  Steady.redoes (@Together.steady Eq (fun _ => rfl) _ (Lockstep.write piece)) within

theorem redoes_writeOrFail (pieces : Except Error (List Piece))
    : Redoes within (writeOrFail pieces) (writeOrFail pieces) :=
  Steady.redoes (@Together.steady Eq (fun _ => rfl) _ (Lockstep.writeOrFail pieces)) within

theorem matches_marked
    : Matches False (Same within) (Same true) (writeRootMarker cx.options)
        (writeRootMarker cx.options) :=
  .of_ok (writeRootMarker_apply _) (writeRootMarker_apply _)
    fun _ _ same => ⟨by rw [same.same], fun _ => rfl⟩

/-- Inside of an element the marker is not due. -/
theorem matches_unmarked
    : Matches False (Same true) (Same true) (pure ()) (writeRootMarker cx.options) := by
  refine .of_ok (fun state => pure_apply () state) (writeRootMarker_apply _) ?_
  rintro ⟨store, output, marked, selections, providers, depth⟩ other ⟨rfl, isMarked⟩
  obtain rfl : marked = true := isMarked rfl
  exact ⟨rfl, fun _ => rfl⟩

theorem matches_openTag (tag : String) (props : Props)
    : Matches False (Same within) (Same true) (writeOpenTag cx tag props)
        (writeOpenTag cx tag props) :=
  (redoes_write _).andThen ((redoes_writeOrFail _).andThen matches_marked)

theorem redoes_pushSelection (value : Value)
    : Redoes within (pushSelection value) (pushSelection value) :=
  Steady.redoes (@Together.steady Eq (fun _ => rfl) _ (Lockstep.pushSelection value)) within

theorem redoes_endHost (tag : String) : Redoes within (endHost tag) (endHost tag) := by
  refine .andThen (redoes_write _) ?_
  split
  · exact Steady.redoes (@Together.steady Eq (fun _ => rfl) _ Lockstep.popSelection) within
  · exact .nothing

end Render

-----------------------------------------------------------------------------------------
-- Bound templates and elements
-----------------------------------------------------------------------------------------

namespace Slots

/-- A bound template that renders the values in its slots, and elements that are made with the
same values.
-/
structure Mirrored (cx : RenderSettings) (invoke : Invoke) (slots : Slots)
    (binding : ElementGraph.Binding)
    : Prop where
  values : binding.values = slots.values
  slot : ∀ index, slots.renderSlot index = Render.renderValue cx invoke (slots.value index)
  field
    : ∀ index position,
        slots.renderField index position
        = Render.renderValue cx invoke (Source.fieldAt position slots.values[index]?)
  steady : ∀ value, Render.Steady (Render.renderValue cx invoke value)

/-- A plain node of a bound template as it is after reading, with the void elements of
rendering.
-/
structure Regular (slots : Slots) (branch : Branch) : Prop where
  plain : branch.node.Plain
  spreads : branch.node.spreads = []
  isVoid : branch.node.isVoid = branch.node.elementName?.any Html.isVoid
  isCustom
    : branch.node.isCustom
      = branch.node.elementName?.any fun tag => Html.isCustomTag tag || branch.node.hasNamed "is"
  childless : branch.node.isVoid = true → branch.children = []
  texts : ∀ text, .text text ∈ branch.children → text ≠ ""
  found : slots.template.tree.branch? branch.node.id = some branch

variable {cx : RenderSettings} {invoke : Invoke} {slots : Slots} {binding : ElementGraph.Binding}
  {branch : Branch} {tag : String} {top : Bool}

/-- The value at a source is rendered like every value. -/
theorem renderSource_eq (mirrored : slots.Mirrored cx invoke binding) (source : Source)
    : slots.renderSource cx source
      = Render.renderValue cx invoke (source.value slots.values) := by
  cases source with
  | literal text => simp only [renderSource, Source.value, Render.renderValue]
  | bare => simp only [renderSource, Source.value, Render.renderValue]
  | slot index => exact mirrored.slot index
  | field index position => exact mirrored.field index position

/-- The attributes of a plain node give no markup as it is. -/
theorem Regular.noInner (regular : slots.Regular branch) (values : List Value)
    : Fields.get? (branch.node.props values) "dangerouslySetInnerHTML" = none :=
  regular.plain.get?_props values regular.plain.noInner

theorem Regular.isVoid_element (regular : slots.Regular branch)
    (isElement : branch.node.tag = .element tag)
    : branch.node.isVoid = Html.isVoid tag := by
  rw [regular.isVoid, Node.elementName?_element isElement, Option.any_some]

/-- An element that is not a form element loses no line feed. -/
theorem Regular.keepsNewline (regular : slots.Regular branch)
    (isElement : branch.node.tag = .element tag) (isInline : Program.isFormControl tag = false)
    : Html.eatsNewline tag = false := by
  have keeps := regular.plain.keepsNewline
  simp only [Node.elementName?_element isElement, Option.any_some] at keeps
  simp only [Program.isFormControl, Bool.or_eq_false_iff] at isInline
  simp_all [Html.eatsNewline, Html.newlineEatingTags]

/-- Running the call for content that attributes may give renders the children that they give,
in an element that may have any.
-/
theorem run_ofContentSource (mirrored : slots.Mirrored cx invoke binding)
    (regular : slots.Regular branch) (isElement : branch.node.tag = .element tag)
    (isInline : Program.isFormControl tag = false)
    : slots.runProgram cx invoke (Program.ofContentSource branch.node)
      = match (Fields.get? (branch.node.props slots.values) "children").bind Value.present? with
        | none => pure ()
        | some _ =>
            if branch.node.isVoid then
              throw (.voidElementChildren tag)
            else
              Render.renderField cx invoke "children" (branch.node.props slots.values) := by
  have name := Node.elementName?_element isElement
  cases sourced : branch.node.hasContentSource with
  | false =>
      have absent : branch.node.hasNamed "children" = false := by
        simp only [Node.hasContentSource, Bool.or_eq_false_iff] at sourced
        exact sourced.1.2
      rw [regular.plain.get?_props slots.values absent, Program.ofContentSource, sourced]
      rfl
  | true =>
      rw [Program.ofContentSource, sourced, if_pos rfl, runProgram_call]
      apply (callNodeById_found regular.found _).trans
      simp only [callNode, renderContent, Content.ofProps_children (regular.noInner slots.values),
        name, Option.getD_some]
      cases present : (Fields.get? (branch.node.props slots.values) "children").bind
          Value.present? with
      | none => rfl
      | some value =>
          simp only
          split
          · rfl
          · have merged
                : Fields.get? (branch.node.props slots.values) "children"
                  = (Fields.get? (branch.node.sources slots.values) "children").map
                      (Source.value slots.values) :=
              Fields.get?_map ..
            simp only [Render.renderContent, Render.renderChild,
              regular.keepsNewline isElement isInline, Bool.false_and, Bool.false_eq_true,
              if_false, Render.renderField_eq, merged]
            cases Fields.get? (branch.node.sources slots.values) "children" with
            | none => rfl
            | some source => exact renderSource_eq mirrored source

/-- Children that attributes may give are rendered in an element that is not void. -/
theorem run_ofContentSource_notVoid (mirrored : slots.Mirrored cx invoke binding)
    (regular : slots.Regular branch) (isElement : branch.node.tag = .element tag)
    (isInline : Program.isFormControl tag = false) (notVoid : branch.node.isVoid = false)
    : slots.runProgram cx invoke (Program.ofContentSource branch.node)
      = Render.renderField cx invoke "children" (branch.node.props slots.values) := by
  rw [run_ofContentSource mirrored regular isElement isInline, Render.renderField_eq,
    ← Render.renderOptional_present]
  cases (Fields.get? (branch.node.props slots.values) "children").bind Value.present? with
  | none => rfl
  | some value => simp only [notVoid, Bool.false_eq_true, if_false]

/-- A selection begins with the properties of its element. -/
theorem openSelection_eq (node : Node) (children : List Value)
    : slots.openSelection cx node
      = Render.beginHost cx "select" (node.elementProps slots.values children) := by
  have value (name : String) (other : name ≠ "key" ∧ name ≠ "ref" ∧ name ≠ "children")
      : Fields.get? (splitIdentity (node.props slots.values)).2 name
        = Fields.get? (node.elementProps slots.values children) name := by
    rw [Node.get?_elementProps node _ _ other, Node.get?_splitIdentity _ other.1 other.2.1]
  have selected
      : FormControl.selectValue (splitIdentity (node.props slots.values)).2
        = FormControl.selectValue (node.elementProps slots.values children) := by
    simp only [FormControl.selectValue, FormControl.firstPresent, value "value" (by decide),
      value "defaultValue" (by decide)]
  have written
      : writable (FormControl.selectProps (splitIdentity (node.props slots.values)).2)
        = writable
            (FormControl.selectProps (node.elementProps slots.values children)) := by
    rw [FormControl.selectProps, FormControl.selectProps, writable_insert _ _ rfl,
      writable_insert _ _ rfl, writable_splitIdentity, Node.writable_elementProps]
  simp only [openSelection, Render.beginHost, if_true, selected, Render.writeOpenTag_congr written]

/-- Running the beginning of an element begins the element with its properties. -/
theorem matches_opening (mirrored : slots.Mirrored cx invoke binding)
    (regular : slots.Regular branch) (isElement : branch.node.tag = .element tag)
    (isInline : Program.isFormControl tag = false) {opening : Program}
    (begins : Program.ofOpening branch.node tag top = .ok opening) (children : List Value)
    : Render.Matches False (Render.Same (!top)) (Render.Same true)
        (slots.runProgram cx invoke opening)
        (Render.beginHost cx tag (branch.node.elementProps binding.values children)) := by
  rw [mirrored.values]
  obtain ⟨rfl, rfl⟩ | ⟨isSelect, -⟩ := Program.ofOpening_eq begins
  · have opened
        : slots.runCall cx invoke (.selectOpen branch.node.id)
          = Render.beginHost cx "select" (branch.node.elementProps slots.values children) :=
      (callNodeById_found regular.found _).trans (openSelection_eq branch.node children)
    rw [runProgram_call, opened]
    simp only [Render.beginHost, if_true]
    exact (Render.matches_openTag _ _).andThen (Render.redoes_pushSelection _)
  · have inline : Program.isInline tag = true := by
      simp [Program.isInline, isInline, isSelect]
    have same := branch.node.writable_elementProps slots.values children
    have custom
        : (Html.isCustomTag tag
            || Fields.contains (branch.node.elementProps slots.values children) "is")
          = branch.node.isCustom := by
      rw [contains_congr same rfl, regular.plain.contains_props, regular.isCustom]
      simp only [Node.elementName?_element isElement, Option.any_some]
    refine .left (Compiled.run_ofOpening regular.found inline begins) ?_
    simp only [Render.beginHost, if_neg isSelect, Render.writeOpenTag, custom,
      regular.plain.ofProps_emissions regular.spreads, ← ofProps_congr same]
    refine .andThen (Render.redoes_write _) (.andThen (Render.redoes_writeOrFail _) ?_)
    -- Elements are always asked for the marker, programs only at the top.
    cases top with
    | true => exact Render.matches_marked
    | false => exact Render.matches_unmarked

-----------------------------------------------------------------------------------------
-- Nodes
-----------------------------------------------------------------------------------------

/-- The values of children are made one by one. -/
theorem childValues_eq (binding : ElementGraph.Binding) (children : List Child)
    : ElementGraph.childValues binding children
      = children.map (ElementGraph.childValue binding) := by
  induction children with
  | nil => simp only [ElementGraph.childValues, List.map_nil]
  | cons first rest ih => simp only [ElementGraph.childValues, List.map_cons, ih]

/-- A child is the same value in both, or a node that is bound in one and an element in the
other.
-/
theorem childValue_similar (same : binding.values = slots.values) (child : Child)
    : Value.Similar (slots.childValue child) (ElementGraph.childValue binding child) := by
  cases child with
  | text text =>
      simp only [childValue, ElementGraph.childValue]
      exact .same _
  | slot slot =>
      simp only [childValue, ElementGraph.childValue, same]
      exact .same _
  | branch node children =>
      simp only [childValue, ElementGraph.childValue]
      exact .inner _ _

/-- The element of a host node is rendered from its properties. -/
theorem renderValue_host {node : Node} (isElement : node.tag = .element tag)
    (children : List Value)
    : Render.renderValue cx invoke (.element (ElementGraph.elementOf binding node children))
      = Render.renderHost cx tag (node.elementProps binding.values children)
          (Render.renderField cx invoke "children"
            (node.elementProps binding.values children)) := by
  simp only [ElementGraph.elementOf, ElementGraph.kindOf, isElement, Render.renderValue]
  rfl

/-- The element of a group of children renders its children. -/
theorem renderValue_fragment {node : Node} (isFragment : node.tag = .fragment)
    (children : List Value)
    : Render.renderValue cx invoke (.element (ElementGraph.elementOf binding node children))
      = Render.renderField cx invoke "children" (node.elementProps binding.values children) := by
  simp only [ElementGraph.elementOf, ElementGraph.kindOf, isFragment, Render.renderValue]
  rfl

/-- The children of a group without attributes are rendered in a row. -/
theorem renderItems_fragment {node : Node} (plain : node.Plain) (isFragment : node.tag = .fragment)
    (values children : List Value)
    : Render.renderField cx invoke "children" (node.elementProps values children)
      = Render.renderItems cx invoke children := by
  rw [Render.renderField_elementProps]
  split
  next isEmpty =>
      rw [List.isEmpty_iff.mp isEmpty, plain.props_eq, plain.bareFragment isFragment]
      simp only [List.flatMap_nil, Render.renderField, Render.renderItems]
  next => rfl

/-- A form element is rendered alike from the properties of its node and as an element. -/
theorem renderControl_eq (mirrored : slots.Mirrored cx invoke binding)
    (regular : slots.Regular branch) (isElement : branch.node.tag = .element tag)
    : Render.renderControl cx tag (slots.nodeProps branch).2
      = Render.renderControl cx tag
          (branch.node.elementProps binding.values
            (branch.children.map (ElementGraph.childValue binding))) := by
  rw [nodeProps_eq, mirrored.values]
  simp only [Node.elementProps, List.isEmpty_map]
  split
  · rfl
  next some =>
      apply Render.renderControl_readAlike
      · exact readAlike_ofChildren fun child _ => childValue_similar mirrored.values child
      · rintro rfl
        refine some (List.isEmpty_iff.mpr (regular.childless ?_))
        rw [regular.isVoid_element isElement]
        rfl
      · rw [Node.get?_splitIdentity _ (by decide) (by decide)]
        exact regular.noInner slots.values

/-- The call for a form element renders its element. -/
theorem runCall_host (mirrored : slots.Mirrored cx invoke binding)
    (regular : slots.Regular branch) (isElement : branch.node.tag = .element tag)
    (isControl : Program.isFormControl tag = true)
    : slots.runCall cx invoke (.host branch.node.id)
      = Render.renderValue cx invoke
          (.element
            (ElementGraph.elementOf binding branch.node
              (ElementGraph.childValues binding branch.children))) := by
  have name := Node.elementName?_element isElement
  apply (callNodeById_found regular.found _).trans
  rw [renderValue_host isElement, Render.renderHost, if_pos isControl, childValues_eq,
    ← renderControl_eq mirrored regular isElement]
  simp only [callNode, name]

/-- An inline element that is not void is rendered alike when its children are. -/
theorem redoes_element (mirrored : slots.Mirrored cx invoke binding)
    (regular : slots.Regular branch) (isElement : branch.node.tag = .element tag)
    (isInline : Program.isFormControl tag = false) (notVoid : branch.node.isVoid = false)
    {opening content : Program}
    (begins : Program.ofOpening branch.node tag top = .ok opening) {children : List Value}
    (inside
      : Render.Redoes true (slots.runProgram cx invoke content)
          (Render.renderField cx invoke "children"
            (branch.node.elementProps binding.values children)))
    : Render.Redoes (!top)
        (slots.runProgram cx invoke
          (opening ++ .write .openEnd :: content ++ Program.ofClosing tag))
        (Render.renderValue cx invoke
          (.element (ElementGraph.elementOf binding branch.node children))) := by
  have notVoid : Html.isVoid tag = false := regular.isVoid_element isElement ▸ notVoid
  have noInner
      : Fields.get? (branch.node.elementProps binding.values children) "dangerouslySetInnerHTML"
        = none := by
    rw [Node.get?_elementProps _ _ _ (by decide)]
    exact regular.noInner binding.values
  have closes : slots.runProgram cx invoke (Program.ofClosing tag) = Render.endHost tag := by
    simp only [Program.ofClosing, runProgram, Render.endHost]
    split
    · rw [runProgram_call]
      rfl
    · rfl
  rw [renderValue_host isElement,
    Render.renderHost_around isInline notVoid (regular.keepsNewline isElement isInline) noInner]
  simp only [runProgram_append, bind_assoc, runProgram, closes]
  refine .andThen (matches_opening mirrored regular isElement isInline begins children) ?_
  refine .andThen (Render.redoes_write _) (.andThen inside ?_)
  exact (Render.redoes_endHost tag).weaken (fun _ _ same => same) fun _ _ => .leave

/-- A void element is rendered alike unless its attributes give it content. -/
theorem redoes_void (mirrored : slots.Mirrored cx invoke binding)
    (regular : slots.Regular branch) (isElement : branch.node.tag = .element tag)
    (isInline : Program.isFormControl tag = false) (isVoid : branch.node.isVoid = true)
    {opening : Program} (begins : Program.ofOpening branch.node tag top = .ok opening)
    : Render.Redoes (!top)
        (slots.runProgram cx invoke
          (opening ++ Program.ofContentSource branch.node ++ [.write .selfClose]))
        (Render.renderValue cx invoke
          (.element (ElementGraph.elementOf binding branch.node []))) := by
  have isVoid' : Html.isVoid tag = true := regular.isVoid_element isElement ▸ isVoid
  simp only [runProgram_append, bind_assoc, run_ofContentSource mirrored regular isElement isInline,
    isVoid, if_true]
  cases present : (Fields.get? (branch.node.props slots.values) "children").bind Value.present? with
  -- The program fails here after it has begun the element, so nothing is to show.
  | some value => exact .doomed _
  | none =>
      rw [renderValue_host isElement, Render.renderHost_void isInline isVoid']
      · refine .andThen (matches_opening mirrored regular isElement isInline begins []) ?_
        exact .weaken (.andThen (Render.redoes_write _) .nothing) (fun _ _ same => same)
          fun _ _ => .leave
      · rw [Node.get?_elementProps _ _ _ (by decide)]
        exact regular.noInner binding.values
      · rw [Node.get?_elementProps_children, mirrored.values]
        exact present

-----------------------------------------------------------------------------------------
-- Children
-----------------------------------------------------------------------------------------

/-- Children as they are after reading: no text is empty and all nodes are regular. -/
structure Ready (slots : Slots) (children : List Child) : Prop where
  texts : ∀ text, .text text ∈ children → text ≠ ""
  nodes : ∀ branch ∈ Child.branchesOf children, slots.Regular branch

theorem Ready.cons {first : Child} {rest : List Child} (ready : slots.Ready (first :: rest))
    : slots.Ready [first] ∧ slots.Ready rest := by
  constructor
  · constructor
    · intro text member
      apply ready.texts text
      exact List.mem_cons.mpr (.inl (List.mem_singleton.mp member))
    · intro branch member
      apply ready.nodes branch
      simp only [Child.branchesOf, List.append_nil] at member ⊢
      exact List.mem_append_left _ member
  · constructor
    · intro text member
      exact ready.texts text (List.mem_cons_of_mem _ member)
    · intro branch member
      exact ready.nodes branch (List.mem_append_right _ member)

theorem Ready.inside {node : Node} {children : List Child}
    (ready : slots.Ready [.branch node children])
    : slots.Regular ⟨node, children⟩ ∧ slots.Ready children := by
  have regular := ready.nodes ⟨node, children⟩ (by simp [Child.branchesOf, Child.branches])
  refine ⟨regular, regular.texts, fun branch member => ready.nodes branch ?_⟩
  simp [Child.branchesOf, Child.branches, member]

theorem Mirrored.steady_renderField (mirrored : slots.Mirrored cx invoke binding) (name : String)
    (fields : List (String × Value))
    : Render.Steady (Render.renderField cx invoke name fields) := by
  rw [Render.renderField_eq]
  cases Fields.get? fields name with
  | some value => exact mirrored.steady value
  | none => exact @Render.Together.steady Eq (fun _ => rfl) _ (Render.Lockstep.done trivial)

mutual

/-- Running what a child compiles to renders the value of the child, by induction on the child.
-/
theorem redoes_ofChild (mirrored : slots.Mirrored cx invoke binding)
    : ∀ child {top output},
        slots.Ready [child]
        → Program.ofChild top false child = .ok output
        → Render.Redoes (!top) (slots.runProgram cx invoke output.1)
            (Render.renderValue cx invoke (ElementGraph.childValue binding child))
  | .text text, top, output, ready, compiled => by
      obtain rfl := Except.ok.inj compiled
      have some : text.isEmpty = false := by
        simpa using ready.texts text (List.mem_singleton_self _)
      simp only [runProgram_call, runCall, ElementGraph.childValue, Render.renderValue,
        Render.renderText, some, Bool.false_eq_true, if_false]
      exact Render.Steady.redoes
        (@Render.Together.steady Eq (fun _ => rfl) _ (Render.Lockstep.writeText _ _)) _
  | .slot slot, top, output, _, compiled => by
      obtain rfl := Except.ok.inj compiled
      simp only [runProgram_call, runCall, Render.renderChild, Bool.false_and, Bool.false_eq_true,
        if_false, mirrored.slot, ElementGraph.childValue, mirrored.values]
      exact (mirrored.steady _).redoes _
  | .branch node children, top, output, ready, compiled => by
      obtain ⟨regular, inner⟩ := ready.inside
      simp only [ElementGraph.childValue]
      cases Program.ofChild_branch compiled with
      | component isComponent =>
          have noComponent := regular.plain.noComponent
          simp [Node.isComponent, isComponent] at noComponent
      | fragment isFragment inside =>
          rw [renderValue_fragment isFragment, renderItems_fragment regular.plain isFragment]
          exact redoes_ofChildren mirrored children inner inside
      | control isElement _ isControl =>
          have call := runCall_host mirrored regular isElement isControl
          rw [runProgram_call, call]
          exact (mirrored.steady _).redoes _
      | void isElement _ isInline begins isVoid =>
          obtain rfl := regular.childless isVoid
          simp only [ElementGraph.childValues]
          exact redoes_void mirrored regular isElement isInline isVoid begins
      | childless isElement _ isInline begins notVoid isEmpty =>
          subst isEmpty
          apply redoes_element mirrored regular isElement isInline notVoid begins
          have content := run_ofContentSource_notVoid mirrored regular isElement isInline notVoid
          rw [content, Render.renderField_elementProps, mirrored.values]
          exact (mirrored.steady_renderField _ _).redoes _
      | around isElement _ isInline begins notVoid some inside =>
          apply redoes_element mirrored regular isElement isInline notVoid begins
          simp only [regular.keepsNewline isElement isInline, Bool.and_false] at inside
          have isEmpty : (ElementGraph.childValues binding children).isEmpty = false := by
            simpa [childValues_eq] using some
          rw [Render.renderField_elementProps, isEmpty]
          exact redoes_ofChildren mirrored children inner inside

/-- Running what children compile to renders their values in a row. -/
theorem redoes_ofChildren (mirrored : slots.Mirrored cx invoke binding)
    : ∀ children {top output},
        slots.Ready children
        → Program.ofChildren top false children = .ok output
        → Render.Redoes (!top) (slots.runProgram cx invoke output.1)
            (Render.renderItems cx invoke (ElementGraph.childValues binding children))
  | [], top, output, _, compiled => by
      obtain rfl := Except.ok.inj compiled
      simp only [ElementGraph.childValues, Render.renderItems]
      exact .nothing
  | first :: rest, top, output, ready, compiled => by
      obtain ⟨start, others, isStart, isOthers, rfl⟩ := Program.ofChildren_cons compiled
      simp only [runProgram_append, ElementGraph.childValues, Render.renderItems]
      refine .andThen (redoes_ofChild mirrored first ?_ isStart)
        (redoes_ofChildren mirrored rest ?_ isOthers)
      · exact ready.cons.1
      · exact ready.cons.2

end

end Slots

namespace Render

variable {cx : RenderSettings} {binding : ElementGraph.Binding}

end Render

-----------------------------------------------------------------------------------------
-- Engines
-----------------------------------------------------------------------------------------

/-- A template to which values can be bound can be made into elements of the same tree, and the
two leave alike stores behind.
-/
theorem Store.Read.elements {settings : Settings} {template : Template} {values : List Value}
    {store reached : Store} {markup : Markup} (now : Store.Read settings.options.read store)
    (bound : Work.markup settings template values store = (.ok markup, reached))
    : ∃ entry binding reached',
        (Work.entry settings template store).1 = .ok entry
        ∧ entry.tree.ReadWith settings.options.read
        ∧ Compiled.ofTree entry.tree entry.components = .ok markup.template
        ∧ markup.values = binding.values
        ∧ markup.entry = none
        ∧ Work.createElement settings template values store
          = (.ok (ElementGraph.build entry.tree binding), reached')
        ∧ Store.Alike settings (fun _ => True) reached reached' := by
  obtain ⟨counted, form, stored, compiled, rfl, rfl⟩ := Work.markup_ok bound
  obtain ⟨entry, middle, reading, read, made⟩ := now.compile compiled
  have kept : Store.Read settings.options.read (Work.entry settings template store).2 :=
    (lasting (fun _ => True) settings).entry trivial now
  rw [reading] at kept
  have compiles := (now.entry reading).2
  obtain ⟨cache, compiled', apart, here⟩ := Store.Alike.compile_reached reading compiles
  obtain ⟨-, rfl⟩ := Prod.mk.inj (compiled.symm.trans compiled')
  rw [made] at here
  obtain ⟨other, cached, tree, components, compiles'⟩ := here
  have alike
      : Store.Alike settings (fun _ => True) (Work.withCache middle cache)
          (Work.withCache middle middle.cache) := by
    apply (Store.Alike.refl kept.compiles).change template.id apart (fun _ _ => rfl)
    rw [cached, Work.entry_found reading]
    exact .both tree.symm components.symm compiles' compiles
  let binding : ElementGraph.Binding :=
    { serial := middle.nextSerial, components := entry.components, values }
  refine ⟨entry, binding, { middle with nextSerial := middle.nextSerial + 1 },
    congrArg Prod.fst reading, read, made, rfl, rfl, ?_, rfl, alike.entries⟩
  rw [Work.createElement_apply, if_pos counted, reading]

namespace Engine

variable {engine : Engine} {host : Host} {template : Template} {values : List Value}
  {static : Bool} {markup : String}

end Engine

end TaggedMarkup
