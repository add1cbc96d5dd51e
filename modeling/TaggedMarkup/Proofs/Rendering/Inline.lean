import TaggedMarkup.Proofs.Genuine
import TaggedMarkup.Proofs.Rendering.Elements

/-! Running the program of a tree goes through the tree. An element that is compiled inline begins,
renders what is between its tags and ends; every other node is one call. What is said here about
the nodes of a tree therefore holds of the programs that they compile to.
-/

namespace TaggedMarkup.Slots

variable {cx : RenderSettings} {invoke : Invoke} {slots : Slots}

-----------------------------------------------------------------------------------------
-- Nodes
-----------------------------------------------------------------------------------------

/-- Begins an element that is compiled inline. -/
def openNode (cx : RenderSettings) (slots : Slots) (node : Node) (tag : String) (top : Bool)
    : Render Unit :=
  if tag = "select" then
    slots.openSelection cx node
  else do
    Render.write (.openTag tag)
    Render.writeOrFail
      (WrittenAttribute.ofProps ((node.emissions slots.values).map Emission.field) node.isCustom)
    if top then Render.writeRootMarker cx.options else pure ()

/-- Renders the content that the attributes of a node may give. -/
def renderGiven (cx : RenderSettings) (slots : Slots) (node : Node) : Render Unit :=
  if node.hasContentSource then slots.renderContent cx node else pure ()

mutual

/-- Renders a child of a template where it stands. -/
def renderNode (cx : RenderSettings) (invoke : Invoke) (slots : Slots) (top leadNewline : Bool)
    : Child → Render Unit
  | .text text => Render.writeText cx.options (Text.escape text)
  | .slot slot => Render.renderChild leadNewline (slots.value slot) (slots.renderSlot slot)
  | .branch node children =>
      match node.tag with
      | .fragment => renderNodes cx invoke slots top false children
      | .component _ => slots.callNode cx invoke ⟨node, children⟩ (.component node.id)
      | .element tag =>
          if Program.isFormControl tag then
            Render.renderControl cx tag (slots.nodeProps ⟨node, children⟩).2
          else do
            slots.openNode cx node tag top
            if node.isVoid then
              slots.renderGiven cx node
              Render.write .selfClose
            else
              Render.write .openEnd
              (if children.isEmpty then
                slots.renderGiven cx node
              else
                renderNodes cx invoke slots false
                  (children.length == 1 && Html.eatsNewline tag) children)
              Render.endHost tag

/-- Renders children of a template in a row. -/
def renderNodes (cx : RenderSettings) (invoke : Invoke) (slots : Slots)
    (top leadNewline : Bool)
    : List Child → Render Unit
  | [] => pure ()
  | child :: rest => do
      renderNode cx invoke slots top leadNewline child
      renderNodes cx invoke slots top leadNewline rest

end

section

variable {node : Node} {children : List Child} {tag name : String} {top leadNewline : Bool}

theorem renderNode_fragment (isFragment : node.tag = .fragment)
    : slots.renderNode cx invoke top leadNewline (.branch node children)
      = slots.renderNodes cx invoke top false children := by
  simp only [renderNode, isFragment]

theorem renderNode_component (isComponent : node.tag = .component name)
    : slots.renderNode cx invoke top leadNewline (.branch node children)
      = slots.callNode cx invoke ⟨node, children⟩ (.component node.id) := by
  simp only [renderNode, isComponent]

theorem renderNode_control (isElement : node.tag = .element tag)
    (isControl : Program.isFormControl tag = true)
    : slots.renderNode cx invoke top leadNewline (.branch node children)
      = Render.renderControl cx tag (slots.nodeProps ⟨node, children⟩).2 := by
  simp only [renderNode, isElement, isControl, if_true]

theorem renderNode_void (isElement : node.tag = .element tag)
    (isInline : Program.isFormControl tag = false) (isVoid : node.isVoid = true)
    : slots.renderNode cx invoke top leadNewline (.branch node children)
      = (do
          slots.openNode cx node tag top
          slots.renderGiven cx node
          Render.write .selfClose) := by
  simp only [renderNode, isElement, isInline, isVoid, Bool.false_eq_true, if_false, if_true]

theorem renderNode_around (isElement : node.tag = .element tag)
    (isInline : Program.isFormControl tag = false) (isVoid : node.isVoid = false)
    : slots.renderNode cx invoke top leadNewline (.branch node children)
      = (do
          slots.openNode cx node tag top
          Render.write .openEnd
          (if children.isEmpty then
            slots.renderGiven cx node
          else
            slots.renderNodes cx invoke false (children.length == 1 && Html.eatsNewline tag)
              children)
          Render.endHost tag) := by
  simp only [renderNode, isElement, isInline, isVoid, Bool.false_eq_true, if_false]

end

/-- The nodes inside children are found by their numbers. -/
def Found (slots : Slots) (branches : List Branch) : Prop :=
  ∀ branch ∈ branches, slots.template.tree.branch? branch.node.id = some branch

-----------------------------------------------------------------------------------------
-- Programs
-----------------------------------------------------------------------------------------

/-- The beginning of an inline element runs as the node begins. -/
theorem run_openNode {branch : Branch} {tag : String} {top : Bool} {opening : Program}
    (found : slots.template.tree.branch? branch.node.id = some branch)
    (isInline : Program.isFormControl tag = false)
    (begins : Program.ofOpening branch.node tag top = .ok opening)
    : Render.EndsAlike (slots.runProgram cx invoke opening)
        (slots.openNode cx branch.node tag top) := by
  obtain ⟨isSelect, rfl⟩ | ⟨isSelect, -⟩ := Program.ofOpening_eq begins
  · simp only [openNode, if_pos isSelect, runProgram_call, runCall, callNodeById_found found,
      callNode]
    exact .refl _
  · have inline : Program.isInline tag = true := by
      simp [Program.isInline, isInline, isSelect]
    simp only [openNode, if_neg isSelect]
    exact Compiled.run_ofOpening found inline begins

theorem run_given {branch : Branch}
    (found : slots.template.tree.branch? branch.node.id = some branch)
    : slots.runProgram cx invoke (Program.ofContentSource branch.node)
      = slots.renderGiven cx branch.node := by
  simp only [Program.ofContentSource, renderGiven]
  split
  · simp only [runProgram_call, runCall, callNodeById_found found, callNode]
  · rfl

theorem run_host {branch : Branch} {tag : String} (isElement : branch.node.tag = .element tag)
    (id : Nat)
    : slots.callNode cx invoke branch (.host id)
      = Render.renderControl cx tag (slots.nodeProps branch).2 := by
  simp only [callNode, Node.elementName?_element isElement]

theorem run_endHost (tag : String)
    : slots.runProgram cx invoke (Program.ofClosing tag) = Render.endHost tag := by
  simp only [Program.ofClosing, Render.endHost, runProgram]
  split
  · simp only [runProgram_call, runCall]
  · rfl

/-- The programs of nodes run as the nodes are rendered. -/
def NestedRun (cx : RenderSettings) (invoke : Invoke) (slots : Slots)
    (programs : List (Nat × Program))
    : Prop :=
  ∀ id program,
    (id, program) ∈ programs
    → ∃ branch,
        slots.template.tree.branch? id = some branch
        ∧ Render.EndsAlike (slots.runProgram cx invoke program)
            (slots.renderNode cx invoke true false (.branch branch.node branch.children))

/-- A program runs as its children are rendered, and so do the programs of the nodes inside. -/
structure RunsAs (cx : RenderSettings) (invoke : Invoke) (slots : Slots)
    (output : Program.Output) (move : Render Unit)
    : Prop where
  program : Render.EndsAlike (slots.runProgram cx invoke output.1) move
  nested : NestedRun cx invoke slots output.2

theorem NestedRun.append {programs others : List (Nat × Program)}
    (first : NestedRun cx invoke slots programs) (second : NestedRun cx invoke slots others)
    : NestedRun cx invoke slots (programs ++ others) := by
  intro id program member
  rcases List.mem_append.mp member with early | late
  · exact first id program early
  · exact second id program late

theorem RunsAs.content (cx : RenderSettings) (invoke : Invoke) {branch : Branch}
    (found : slots.template.tree.branch? branch.node.id = some branch)
    : RunsAs cx invoke slots (Program.ofContentSource branch.node, [])
        (slots.renderGiven cx branch.node) where
  program := by
    rw [run_given found]
    exact .refl _
  nested := by simp [NestedRun]

/-- An inline element with content between its tags runs as the node is rendered. -/
theorem RunsAs.around {branch : Branch} {tag : String} {top : Bool}
    {opening content : Program} {programs : List (Nat × Program)} {inner : Render Unit}
    (found : slots.template.tree.branch? branch.node.id = some branch)
    (isInline : Program.isFormControl tag = false)
    (begins : Program.ofOpening branch.node tag top = .ok opening)
    (inside : RunsAs cx invoke slots (content, programs) inner)
    : RunsAs cx invoke slots
        (opening ++ .write .openEnd :: content ++ Program.ofClosing tag, programs)
        (do
          slots.openNode cx branch.node tag top
          Render.write .openEnd
          inner
          Render.endHost tag) where
  program := by
    simp only [runProgram_append, bind_assoc, runProgram, run_endHost]
    refine .andThen (run_openNode found isInline begins) (.andThen (.refl _) ?_)
    exact .andThen inside.program (.refl _)
  nested := inside.nested

/-- A void element that is compiled inline runs as the node is rendered. -/
theorem RunsAs.void (cx : RenderSettings) (invoke : Invoke) {branch : Branch} {tag : String}
    {top : Bool} {opening : Program}
    (found : slots.template.tree.branch? branch.node.id = some branch)
    (isInline : Program.isFormControl tag = false)
    (begins : Program.ofOpening branch.node tag top = .ok opening)
    : RunsAs cx invoke slots
        (opening ++ Program.ofContentSource branch.node ++ [.write .selfClose], [])
        (do
          slots.openNode cx branch.node tag top
          slots.renderGiven cx branch.node
          Render.write .selfClose) where
  program := by
    rw [runProgram_append, runProgram_append, bind_assoc, run_given found]
    refine .andThen (run_openNode found isInline begins) ?_
    simp only [runProgram, bind_pure_unit]
    exact .refl _
  nested := by simp [NestedRun]

mutual

/-- What a child compiles to runs as the child is rendered, by induction on the child. -/
theorem runs_ofChild (cx : RenderSettings) (invoke : Invoke)
    : ∀ child {top leadNewline output},
        Found slots child.branches
        → Program.ofChild top leadNewline child = .ok output
        → RunsAs cx invoke slots output (slots.renderNode cx invoke top leadNewline child)
  | .text text, top, leadNewline, output, _, compiled => by
      obtain rfl := Except.ok.inj compiled
      refine ⟨?_, by simp [NestedRun]⟩
      simp only [runProgram_call, runCall, renderNode]
      exact .refl _
  | .slot slot, top, leadNewline, output, _, compiled => by
      obtain rfl := Except.ok.inj compiled
      refine ⟨?_, by simp [NestedRun]⟩
      simp only [runProgram_call, runCall, renderNode]
      exact .refl _
  | .branch node children, top, leadNewline, output, found, compiled => by
      have here := found ⟨node, children⟩ (List.mem_cons_self ..)
      have inner : Found slots (Child.branchesOf children) :=
        fun branch member => found branch (List.mem_cons_of_mem _ member)
      cases Program.ofChild_branch compiled with
      | fragment isFragment inside =>
          rw [renderNode_fragment isFragment]
          exact runs_ofChildren cx invoke children inner inside
      | component isComponent inside =>
          refine ⟨?_, runs_ofNested cx invoke children inner inside⟩
          rw [renderNode_component isComponent, runProgram_call, runCall, callNodeById_found here]
          exact .refl _
      | control isElement _ isControl inside =>
          refine ⟨?_, runs_ofNested cx invoke children inner inside⟩
          rw [renderNode_control isElement isControl, runProgram_call, runCall,
            callNodeById_found here, run_host isElement]
          exact .refl _
      | void isElement _ isInline begins isVoid =>
          have whole := RunsAs.void cx invoke here isInline begins
          rw [renderNode_void isElement isInline isVoid]
          exact whole
      | childless isElement _ isInline begins isVoid isEmpty =>
          have whole := RunsAs.around here isInline begins (.content cx invoke here)
          rw [renderNode_around isElement isInline isVoid, if_pos (List.isEmpty_iff.mpr isEmpty)]
          exact whole
      | around isElement _ isInline begins isVoid some inside =>
          have notEmpty : ¬children.isEmpty = true := by simpa using some
          have whole := RunsAs.around here isInline begins
            (runs_ofChildren cx invoke children inner inside)
          rw [renderNode_around isElement isInline isVoid, if_neg notEmpty]
          exact whole

theorem runs_ofChildren (cx : RenderSettings) (invoke : Invoke)
    : ∀ children {top leadNewline output},
        Found slots (Child.branchesOf children)
        → Program.ofChildren top leadNewline children = .ok output
        → RunsAs cx invoke slots output (slots.renderNodes cx invoke top leadNewline children)
  | [], top, leadNewline, output, _, compiled => by
      obtain rfl := Except.ok.inj compiled
      exact ⟨.refl _, by simp [NestedRun]⟩
  | first :: rest, top, leadNewline, output, found, compiled => by
      obtain ⟨start, others, isStart, isOthers, rfl⟩ := Program.ofChildren_cons compiled
      have here := runs_ofChild cx invoke first
        (fun branch member => found branch (List.mem_append_left _ member)) isStart
      have later := runs_ofChildren cx invoke rest
        (fun branch member => found branch (List.mem_append_right _ member)) isOthers
      refine ⟨?_, here.nested.append later.nested⟩
      simp only [renderNodes, runProgram_append]
      exact here.program.andThen later.program

theorem runs_ofNested (cx : RenderSettings) (invoke : Invoke)
    : ∀ children {programs},
        Found slots (Child.branchesOf children)
        → Program.ofNested children = .ok programs
        → NestedRun cx invoke slots programs
  | [], programs, _, compiled => by
      obtain rfl := Except.ok.inj compiled
      simp [NestedRun]
  | .text _ :: rest, programs, found, compiled | .slot _ :: rest, programs, found, compiled =>
      runs_ofNested cx invoke rest found compiled
  | .branch node children :: rest, programs, found, compiled => by
      obtain ⟨output, others, isOutput, isOthers, rfl⟩ := Program.ofNested_branch compiled
      have within : Found slots (Child.branches (.branch node children)) :=
        fun branch member => found branch (List.mem_append_left _ member)
      have own := runs_ofChild cx invoke (.branch node children) within isOutput
      have later := runs_ofNested cx invoke rest
        (fun branch member => found branch (List.mem_append_right _ member)) isOthers
      refine own.nested.append ?_
      intro id program member
      rcases List.mem_cons.mp member with same | other
      · obtain ⟨rfl, rfl⟩ := Prod.mk.inj same
        exact ⟨_, within ⟨node, children⟩ (List.mem_cons_self ..), own.program⟩
      · exact later id program other

end

/-- Running a genuine template or one node in it goes through the tree. -/
theorem render_alike (form : slots.template.Genuine) (entry : Option Nat)
    : Render.EndsAlike (slots.render cx invoke entry)
        (slots.renderNodes cx invoke true false (slots.template.roots entry)) := by
  obtain ⟨resolver, options, fragments, parsed⟩ := form.parsed
  obtain ⟨output, isOutput, isForm⟩ := Program.ofTree_eq form.compiled
  have found : Found slots (Child.branchesOf slots.template.tree.roots) :=
    fun branch member => (Tree.parse_read parsed).branch?_id member
  have runs := runs_ofChildren cx invoke _ found isOutput
  have root : slots.template.root = output.1 := congrArg Compiled.root isForm
  have programs : slots.template.programs = output.2 := congrArg Compiled.programs isForm
  cases entry with
  | none =>
      simp only [render, Compiled.program?, Compiled.roots, root]
      exact runs.program
  | some id =>
      simp only [render, Compiled.program?, Compiled.roots]
      cases isProgram : slots.template.programs.lookup id with
      | none => exact .refl _
      | some program =>
          obtain ⟨before, after, isPrograms, -⟩ := List.lookup_eq_some_iff.mp isProgram
          have member : (id, program) ∈ output.2 := by simp [← programs, isPrograms]
          obtain ⟨branch, isBranch, alike⟩ := runs.nested id program member
          simp only [Option.isSome_some, if_true, isBranch, Option.toList_some, List.map_cons,
            List.map_nil, renderNodes, bind_pure_unit]
          exact alike

end TaggedMarkup.Slots
