import TaggedMarkup.Proofs.Compiling
import TaggedMarkup.Proofs.Merging
import TaggedMarkup.Proofs.Rendering.Matching
import TaggedMarkup.Proofs.Rendering.Primitives
import TaggedMarkup.Proofs.Rendering.Written

/-! The attributes of an element are compiled one by one. Running what they compile to writes
what the attributes pass on, in order, whether an attribute was compiled to markup or to a call.
-/

namespace TaggedMarkup

open Stateful

namespace Render

/-- What may be refused can be written at once or in two parts. -/
theorem EndsAlike.ofProps_append (fields others : List (String × Value)) (custom : Bool)
    : EndsAlike (writeOrFail (WrittenAttribute.ofProps (fields ++ others) custom))
        (do
          writeOrFail (WrittenAttribute.ofProps fields custom)
          writeOrFail (WrittenAttribute.ofProps others custom)) := by
  intro state
  rw [WrittenAttribute.ofProps_append]
  cases WrittenAttribute.ofProps fields custom with
  | error error => exact .inl rfl
  | ok first =>
      cases WrittenAttribute.ofProps others custom with
      | error error =>
          refine .inr ⟨error, state, (writeAll first state).2, rfl, ?_⟩
          change (writeAll first >>= fun _ => throw error) state = _
          rw [bind_apply, writeAll_apply]
          rfl
      | ok second =>
          refine .inl ?_
          change writeAll (first ++ second) state
            = (writeAll first >>= fun _ => writeAll second) state
          simp [bind_apply, writeAll_apply]

end Render

-----------------------------------------------------------------------------------------
-- Compiled attributes
-----------------------------------------------------------------------------------------

namespace Slots

variable {cx : RenderSettings} {invoke : Invoke} {slots : Slots}

/-- Programs in a row are run one after another, by induction on the first. -/
theorem runProgram_append (program others : Program)
    : slots.runProgram cx invoke (program ++ others)
      = (do
          slots.runProgram cx invoke program
          slots.runProgram cx invoke others) := by
  induction program with
  | nil => simp only [List.nil_append, runProgram, pure_bind]
  | cons instruction rest ih =>
      cases instruction with
      | write piece => simp only [List.cons_append, runProgram, ih, bind_assoc]
      | call call => simp only [List.cons_append, runProgram, ih, bind_assoc]

/-- A program of a single call makes the call. -/
theorem runProgram_call (call : Call)
    : slots.runProgram cx invoke [.call call] = slots.runCall cx invoke call := by
  simp only [runProgram]
  exact bind_pure _

theorem runProgram_pieces (pieces : List Piece)
    : slots.runProgram cx invoke (pieces.map .write) = Render.writeAll pieces := by
  induction pieces with
  | nil => rfl
  | cons piece rest ih => simp only [List.map_cons, runProgram, ih, Render.writeAll]

/-- What a named attribute compiles to that no later spread can change writes the attribute. -/
theorem run_ofNamed {node : Node} {name : String} {value : AttributeValue} {program : Program}
    (written : WrittenAttribute.isContentOrIdentity name = false)
    (compiled : Program.ofNamed node name value = .ok program)
    : slots.runProgram cx invoke program
      = Render.writeOrFail
          (WrittenAttribute.ofProps [(name, value.source.value slots.values)] node.isCustom) := by
  rw [WrittenAttribute.ofProps_single]
  simp only [WrittenAttribute.ofProp?, written, Bool.false_eq_true, if_false]
  by_cases isStyle : name = "style"
  · simp only [isStyle, if_true]
    cases value with
    | slot slot =>
        simp only [Program.ofNamed, if_pos isStyle, Except.ok.injEq] at compiled
        subst compiled
        exact runProgram_call _
    | literal | bare =>
        simp only [Program.ofNamed, if_pos isStyle] at compiled
        cases compiled
  · simp only [isStyle, if_false]
    cases value with
    | slot slot =>
        simp only [Program.ofNamed, if_neg isStyle, Except.ok.injEq] at compiled
        subst compiled
        exact runProgram_call _
    | literal | bare =>
        simp only [Program.ofNamed, if_neg isStyle, Except.ok.injEq] at compiled
        subst compiled
        exact runProgram_pieces _

/-- A call on a node is made on the node that is found by its number. -/
theorem callNodeById_found {branch : Branch} {id : Nat}
    (found : slots.template.tree.branch? id = some branch) (call : Call)
    : slots.callNodeById cx invoke id call = slots.callNode cx invoke branch call := by
  simp only [callNodeById, found]

/-- What an attribute compiles to writes what the attribute passes on. -/
theorem run_ofAttribute {branch : Branch} {entry : Nat} {written : Attribute}
    {program : Program}
    (found : slots.template.tree.branch? branch.node.id = some branch)
    (isHere : branch.node.attributes[entry]? = some written)
    (compiled : Program.ofAttribute branch.node entry written = .ok program)
    : slots.runProgram cx invoke program
      = Render.writeOrFail
          (WrittenAttribute.ofProps (branch.node.passed slots.values entry written)
            branch.node.isCustom) := by
  cases written with
  | spread slot location =>
      obtain rfl := Except.ok.inj compiled
      rw [runProgram_call]
      exact callNodeById_found found _
  | dynamicName slot location =>
      obtain rfl := Except.ok.inj compiled
      rw [runProgram_call]
      apply (callNodeById_found found _).trans
      simp only [callNode, isHere, Node.passed]
      cases slots.values[slot]?.bind dynamicName? with
      | none => rfl
      | some name =>
          dsimp only
          split <;> rfl
  | named name value location =>
      simp only [Program.ofAttribute] at compiled
      split at compiled
      next excluded =>
          obtain rfl := Except.ok.inj compiled
          rw [← WrittenAttribute.ofProps_filter, List.filter_eq_nil_iff.mpr]
          · rfl
          · intro field member
            simp only [Node.passed] at member
            split at member
            · cases member
            · obtain rfl := List.mem_singleton.mp member
              simpa using excluded
      next written =>
          split at compiled
          next => cases compiled
          next =>
              split at compiled
              next early =>
                  obtain rfl := Except.ok.inj compiled
                  rw [runProgram_call]
                  apply (callNodeById_found found _).trans
                  simp only [callNode, isHere, Node.passed, early, Bool.true_and]
                  split <;> rfl
              next late =>
                  rw [run_ofNamed (by simpa using written) compiled]
                  simp only [Node.passed, late, Bool.false_and, Bool.false_eq_true, if_false]

/-- What attributes compile to writes what they pass on, by induction on the attributes that
follow a position.
-/
theorem run_ofAttributes {branch : Branch} {entry : Nat} {rest : List Attribute}
    {program : Program}
    (found : slots.template.tree.branch? branch.node.id = some branch)
    (isRest : branch.node.attributes.drop entry = rest)
    (compiled : Program.ofAttributes branch.node entry rest = .ok program)
    : Render.EndsAlike (slots.runProgram cx invoke program)
        (Render.writeOrFail
          (WrittenAttribute.ofProps
            ((branch.node.emissionsFrom slots.values entry rest).map Emission.field)
            branch.node.isCustom)) := by
  induction rest generalizing entry program with
  | nil =>
      obtain rfl := Except.ok.inj compiled
      exact .refl _
  | cons first rest ih =>
      obtain ⟨isHere, isLater⟩ := Node.drop_cons isRest
      obtain ⟨start, others, isStart, isOthers, rfl⟩ := Program.ofAttributes_cons compiled
      rw [runProgram_append, run_ofAttribute found isHere isStart, Node.emissionsFrom_fields]
      refine .trans ?_ (Render.EndsAlike.symm (.ofProps_append _ _ _))
      refine .andThen ?_ (ih isLater isOthers)
      rw [WrittenAttribute.ofProps_filter]
      exact .refl _

end Slots

-----------------------------------------------------------------------------------------
-- Elements that are compiled inline
-----------------------------------------------------------------------------------------

namespace Program

/-- Whether the attributes of an element are compiled one by one. -/
def isInline (tag : String) : Bool :=
  !isFormControl tag && tag != "select"

/-- Whether a program is one of those that something compiles to. -/
def Output.Has (output : Output) (program : Program) : Prop :=
  program = output.1 ∨ ∃ id, (id, program) ∈ output.2

/-- The beginning of an element stands in one of the programs that something compiles to. -/
def Output.Opens (output : Output) (node : Node) (tag : String) : Prop :=
  ∃ top opening program,
    ofOpening node tag top = .ok opening ∧ output.Has program ∧ opening <:+: program

variable {node : Node} {tag : String} {output : Output}

/-- What stands in a program stands in a longer one. -/
theorem Output.Opens.around (opens : output.Opens node tag) (before after : Program)
    (more more' : List (Nat × Program))
    : Output.Opens (before ++ output.1 ++ after, more ++ output.2 ++ more') node tag := by
  obtain ⟨top, opening, program, isOpening, rfl | ⟨id, member⟩, inside⟩ := opens
  · refine ⟨top, opening, _, isOpening, .inl rfl, inside.trans ?_⟩
    exact ⟨before, after, rfl⟩
  · exact ⟨top, opening, program, isOpening, .inr ⟨id, by simp [member]⟩, inside⟩

/-- What stands in a program of a list of nested programs stands in one of a larger list. -/
theorem Output.Opens.nested {programs : List (Nat × Program)}
    (opens : Output.Opens ([], programs) node tag) (program : Program)
    : Output.Opens (program, programs) node tag := by
  simpa using opens.around program [] [] []

/-- The beginning of an inline element stands in what the element compiles to. -/
theorem BranchCompiles.opens {top : Bool} {children : List Child}
    (compiles : BranchCompiles top node children output)
    (isElement : node.tag = .element tag) (isInline : isInline tag = true)
    : output.Opens node tag := by
  have begun {opening rest : Program} {programs : List (Nat × Program)} {other : String}
      (isOther : node.tag = .element other) (begins : ofOpening node other top = .ok opening)
      : Output.Opens (opening ++ rest, programs) node tag := by
    obtain rfl := Tag.element.inj (isOther.symm.trans isElement)
    exact ⟨top, opening, _, begins, .inl rfl, List.infix_append' [] opening rest⟩
  cases compiles with
  | fragment isFragment => cases isElement.symm.trans isFragment
  | component isComponent => cases isElement.symm.trans isComponent
  | control isOther _ isControl =>
      obtain rfl := Tag.element.inj (isOther.symm.trans isElement)
      simp [Program.isInline, isControl] at isInline
  | void isOther _ _ begins =>
      rw [List.append_assoc]
      exact begun isOther begins
  | childless isOther _ _ begins =>
      rw [List.append_assoc]
      exact begun isOther begins
  | around isOther _ _ begins =>
      rw [List.append_assoc]
      exact begun isOther begins

mutual

/-- Every inline element inside a child begins in one of the programs, by induction on the
child.
-/
theorem ofChild_opens
    : ∀ child {top leadNewline output},
        (∀ branch ∈ child.branches, branch.node.isVoid = true → branch.children = [])
        → ofChild top leadNewline child = .ok output
        → ∀ branch ∈ child.branches, ∀ tag,
            branch.node.tag = .element tag
            → isInline tag = true
            → Output.Opens output branch.node tag
  | .text _, _, _, _, _, _ | .slot _, _, _, _, _, _ => by simp [Child.branches]
  | .branch node children, top, leadNewline, output, childless, compiled => by
      intro branch member tag isElement isInline
      have compiles := ofChild_branch compiled
      have inner : ∀ inside ∈ Child.branchesOf children,
          inside.node.isVoid = true → inside.children = [] :=
        fun inside isInside => childless inside (List.mem_cons_of_mem _ isInside)
      rcases List.mem_cons.mp member with rfl | member
      · exact compiles.opens isElement isInline
      cases compiles with
      | fragment _ inside =>
          exact ofChildren_opens children inner inside branch member tag isElement isInline
      | component _ inside | control _ _ _ inside =>
          exact (ofNested_opens children inner inside branch member tag isElement isInline).nested _
      | void _ _ _ _ isVoid =>
          obtain rfl : children = [] := childless ⟨node, children⟩ (by simp [Child.branches]) isVoid
          cases member
      | childless _ _ _ _ _ isEmpty =>
          subst isEmpty
          cases member
      | @around name opening content programs _ _ _ _ _ _ inside =>
          have opens := ofChildren_opens children inner inside branch member tag isElement isInline
          have longer := opens.around (opening ++ [.write .openEnd]) (ofClosing name) [] []
          simpa only [List.nil_append, List.append_nil, List.append_assoc, List.singleton_append,
            List.cons_append] using longer

/-- Every inline element among children begins in one of the programs. -/
theorem ofChildren_opens
    : ∀ children {top leadNewline output},
        (∀ branch ∈ Child.branchesOf children,
          branch.node.isVoid = true → branch.children = [])
        → ofChildren top leadNewline children = .ok output
        → ∀ branch ∈ Child.branchesOf children, ∀ tag,
            branch.node.tag = .element tag
            → isInline tag = true
            → Output.Opens output branch.node tag
  | [], _, _, _, _, _ => by simp [Child.branchesOf]
  | first :: rest, top, leadNewline, output, childless, compiled => by
      intro branch member tag isElement isInline
      obtain ⟨start, others, isStart, isOthers, rfl⟩ := ofChildren_cons compiled
      rcases List.mem_append.mp member with here | later
      · have opens :=
          ofChild_opens first
            (fun inside isInside => childless inside (List.mem_append_left _ isInside))
            isStart branch here tag isElement isInline
        simpa using opens.around [] others.1 [] others.2
      · have opens :=
          ofChildren_opens rest
            (fun inside isInside => childless inside (List.mem_append_right _ isInside))
            isOthers branch later tag isElement isInline
        simpa using opens.around start.1 [] start.2 []

/-- Every inline element among nested nodes begins in one of the programs. -/
theorem ofNested_opens
    : ∀ children {programs},
        (∀ branch ∈ Child.branchesOf children,
          branch.node.isVoid = true → branch.children = [])
        → ofNested children = .ok programs
        → ∀ branch ∈ Child.branchesOf children, ∀ tag,
            branch.node.tag = .element tag
            → isInline tag = true
            → Output.Opens ([], programs) branch.node tag
  | [], _, _, _ => by simp [Child.branchesOf]
  | .text _ :: rest, programs, childless, compiled
  | .slot _ :: rest, programs, childless, compiled => by
      exact ofNested_opens rest childless compiled
  | .branch node children :: rest, programs, childless, compiled => by
      intro branch member tag isElement isInline
      obtain ⟨output, others, isOutput, isOthers, rfl⟩ := ofNested_branch compiled
      rcases List.mem_append.mp member with here | later
      · obtain ⟨top, opening, program, begins, isOwn | ⟨id, isInner⟩, inside⟩ :=
          ofChild_opens (.branch node children)
            (fun inside isInside => childless inside (List.mem_append_left _ isInside))
            isOutput branch here tag isElement isInline
        · exact ⟨top, opening, program, begins, .inr ⟨node.id, by simp [isOwn]⟩, inside⟩
        · exact ⟨top, opening, program, begins, .inr ⟨id, by simp [isInner]⟩, inside⟩
      · have opens :=
          ofNested_opens rest
            (fun inside isInside => childless inside (List.mem_append_right _ isInside))
            isOthers branch later tag isElement isInline
        simpa using opens.around [] [] (output.2 ++ [(node.id, output.1)]) []

end

end Program

-----------------------------------------------------------------------------------------
-- Compiled templates
-----------------------------------------------------------------------------------------

namespace Compiled

/-- The compiled template has a program, for the whole of it or for a node. -/
def Has (form : Compiled) (program : Program) : Prop :=
  program = form.root ∨ ∃ id, (id, program) ∈ form.programs

/-- The beginning of an element writes its tag and what its attributes pass on. -/
theorem run_ofOpening {cx : RenderSettings} {invoke : Invoke} {slots : Slots} {branch : Branch}
    {tag : String} {top : Bool} {opening : Program}
    (found : slots.template.tree.branch? branch.node.id = some branch)
    (isInline : Program.isInline tag = true)
    (begins : Program.ofOpening branch.node tag top = .ok opening)
    : Render.EndsAlike (slots.runProgram cx invoke opening)
        (do
          Render.write (.openTag tag)
          Render.writeOrFail
            (WrittenAttribute.ofProps
              ((branch.node.emissions slots.values).map Emission.field) branch.node.isCustom)
          if top then Render.writeRootMarker cx.options else pure ()) := by
  obtain ⟨rfl, -⟩ | ⟨-, attributes, isAttributes, rfl⟩ := Program.ofOpening_eq begins
  · exact absurd isInline (by decide)
  · rw [List.cons_append, Slots.runProgram, Slots.runProgram_append]
    refine .andThen (.refl _) (.andThen (Slots.run_ofAttributes found rfl isAttributes) ?_)
    cases top with
    | false => exact .refl _
    | true =>
        simp only [if_true, Slots.runProgram_call]
        exact .refl _

/-- The attributes of every element that is compiled inline are written as merging them gives.
The beginning of the element stands in a program of the compiled template, and running it writes
what the attributes pass on, of which the last writing of a name is the merged property.
-/
theorem inline_attributes {resolver : Resolver} {options : ReadOptions}
    {fragments : List String} {tree : Tree} {components : List (Nat × Component)}
    {form : Compiled} (parsed : Tree.parse resolver options fragments = .ok tree)
    (compiled : Compiled.ofTree tree components = .ok form) {branch : Branch}
    (member : branch ∈ tree.branches) {tag : String} (isElement : branch.node.tag = .element tag)
    (isInline : Program.isInline tag = true) (values : List Value)
    : (∃ top opening program,
          Program.ofOpening branch.node tag top = .ok opening
          ∧ form.Has program
          ∧ opening <:+: program
          ∧ ∀ (cx : RenderSettings) (invoke : Invoke) (slots : Slots),
              slots.template = form
              → slots.values = values
              → Render.EndsAlike (slots.runProgram cx invoke opening)
                  (do
                    Render.write (.openTag tag)
                    Render.writeOrFail
                      (WrittenAttribute.ofProps
                        ((branch.node.emissions values).map Emission.field)
                        branch.node.isCustom)
                    if top then Render.writeRootMarker cx.options else pure ()))
      ∧ branch.node.LastWriteWins values := by
  have read := Tree.parse_read parsed
  obtain ⟨output, isOutput, rfl⟩ := Program.ofTree_eq compiled
  have childless (inside : Branch) (isInside : inside ∈ Child.branchesOf tree.roots) :=
    (read.roots.branches inside isInside).childless
  obtain ⟨top, opening, program, begins, has, inside⟩ :=
    Program.ofChildren_opens tree.roots childless isOutput branch member tag isElement isInline
  refine ⟨⟨top, opening, program, begins, has, inside, ?_⟩,
    Node.lastWriteWins (read.roots.branches branch member).opened.spreads values⟩
  rintro cx invoke slots isForm rfl
  refine run_ofOpening ?_ isInline begins
  rw [isForm]
  exact read.branch?_id member

/-- An object spread between two attributes replaces the first and is replaced by the second. -/
theorem inline_attributes_around_spread
    : let values : List Value :=
        [.object [("id", .string "b"), ("title", .string "d"), ("lang", .string "e")]]
      ∃ tree form branch,
        Tree.parse Resolver.empty {} ["<p id=\"a\" ...", " title=\"c\"></p>"] = .ok tree
        ∧ Compiled.ofTree tree [] = .ok form
        ∧ branch ∈ tree.branches
        ∧ branch.node.tag = .element "p"
        ∧ Node.SpreadOnce values
        ∧ branch.node.LastWriteWins values := by
  intro values
  have checked
      : (Tree.parse Resolver.empty {} ["<p id=\"a\" ...", " title=\"c\"></p>"]).map (fun tree =>
            (tree.branches.map fun branch => branch.node.tag, (Compiled.ofTree tree []).isOk))
          = .ok ([.element "p"], true) := by
    decide +kernel
  obtain ⟨tree, parsed, seen⟩ := exists_of_map checked
  obtain ⟨tags, isCompiled⟩ := Prod.mk.inj seen
  obtain ⟨form, compiled⟩ := exists_of_isOk isCompiled
  obtain ⟨branch, isOnly, isElement⟩ := List.map_eq_singleton_iff.mp tags
  have member : branch ∈ tree.branches := isOnly ▸ List.mem_singleton_self branch
  refine ⟨tree, form, branch, parsed, compiled, member, isElement, ?_,
    (inline_attributes parsed compiled member isElement (by decide) values).2⟩
  intro slot fields found
  match slot with
  | 0 =>
      obtain rfl := Option.some.inj found
      decide
  | slot + 1 => cases found

end Compiled

end TaggedMarkup
