import TaggedMarkup.Cache
import TaggedMarkup.Proofs.Compiling
import TaggedMarkup.Proofs.Merging
import TaggedMarkup.Proofs.Reading.Resolution
import TaggedMarkup.Proofs.Reading.Slots

/-! A call of a compiled template looks things up: its node, the attribute that it was made for,
the note of a spread, a component, the programs of nodes inside, and the values of slots. The
tree, its components and the programs are made one after another. All that a call looks up is
there nevertheless.
-/

namespace TaggedMarkup

-----------------------------------------------------------------------------------------
-- Lookups
-----------------------------------------------------------------------------------------

inductive Attribute.Kind where
  | named
  | spread
  | dynamicName
deriving DecidableEq

def Attribute.kind : Attribute → Attribute.Kind
  | .named .. => .named
  | .spread .. => .spread
  | .dynamicName .. => .dynamicName

/-- All slots that the attributes of a node and the notes of its spreads refer to have values. -/
def Node.Supplied (count : Nat) (node : Node) : Prop :=
  (∀ written ∈ node.attributes, ∀ slot ∈ written.slot?, slot < count)
  ∧ ∀ note ∈ node.spreads, note.slot < count

namespace Compiled

/-- A child can be handed on as a value: a slot has one, and a node has a program of its own. -/
def SuppliesChild (form : Compiled) (count : Nat) : Child → Prop
  | .text _ => True
  | .slot slot => slot < count
  | .branch node _ => (form.program? (some node.id)).isSome = true

/-- All that the properties of a node are made of is there. -/
def SuppliesProps (form : Compiled) (count : Nat) (branch : Branch) : Prop :=
  branch.node.Supplied count ∧ ∀ child ∈ branch.children, form.SuppliesChild count child

/-- All that a call on a node looks up is there when a number of values is given. -/
def SuppliesNode (form : Compiled) (count : Nat) (branch : Branch) : Call → Prop
  | .dynamicName _ entry =>
      branch.node.attributes[entry]?.map Attribute.kind = some .dynamicName
      ∧ branch.node.Supplied count
  | .attribute _ entry =>
      branch.node.attributes[entry]?.map Attribute.kind = some .named
      ∧ branch.node.Supplied count
  | .spread _ entry =>
      branch.node.attributes[entry]?.map Attribute.kind = some .spread
      ∧ (branch.node.spreadAt? entry).map SpreadNote.slot
        = branch.node.attributes[entry]?.bind Attribute.slot?
      ∧ branch.node.Supplied count
  | .content _ | .selectOpen _ =>
      branch.node.elementName?.isSome = true ∧ branch.node.Supplied count
  | .component id => (form.component? id).isSome = true ∧ form.SuppliesProps count branch
  | .host _ => branch.node.elementName?.isSome = true ∧ form.SuppliesProps count branch
  | .text _ | .value .. | .style _ | .rootMarker | .child .. | .selectClose => True

/-- All that a call looks up is there when a number of values is given. -/
def Supplies (form : Compiled) (count : Nat) (call : Call) : Prop :=
  match call with
  | .text _ | .rootMarker | .selectClose => True
  | .value slot _ _ | .style slot | .child slot _ => slot < count
  | .dynamicName id _ | .attribute id _ | .spread id _ | .content id | .component id | .host id
  | .selectOpen id => ∃ branch ∈ form.tree.branch? id, form.SuppliesNode count branch call

instance (count : Nat) (node : Node) : Decidable (node.Supplied count) :=
  inferInstanceAs (Decidable (_ ∧ _))

instance (form : Compiled) (count : Nat) : DecidablePred (form.SuppliesChild count)
  | .text _ => inferInstanceAs (Decidable True)
  | .slot slot => inferInstanceAs (Decidable (slot < count))
  | .branch .. => inferInstanceAs (Decidable (_ = true))

instance (form : Compiled) (count : Nat) (branch : Branch)
    : Decidable (form.SuppliesProps count branch) :=
  inferInstanceAs (Decidable (_ ∧ _))

instance (form : Compiled) (count : Nat) (branch : Branch)
    : DecidablePred (form.SuppliesNode count branch)
  | .dynamicName .. | .attribute .. | .content _ | .component _ | .host _ | .selectOpen _ =>
      inferInstanceAs (Decidable (_ ∧ _))
  | .spread .. => inferInstanceAs (Decidable (_ ∧ _ ∧ _))
  | .text _ | .value .. | .style _ | .rootMarker | .child .. | .selectClose =>
      inferInstanceAs (Decidable True)

instance (form : Compiled) (count : Nat) : DecidablePred (form.Supplies count)
  | .text _ | .rootMarker | .selectClose => inferInstanceAs (Decidable True)
  | .value slot _ _ | .style slot | .child slot _ => inferInstanceAs (Decidable (slot < count))
  | .dynamicName .. | .attribute .. | .spread .. | .content _ | .component _ | .host _
  | .selectOpen _ => inferInstanceAs (Decidable (∃ branch ∈ _, _))

/-- All that the calls of a program look up is there. -/
def SuppliesAll (form : Compiled) (count : Nat) (program : Program) : Prop :=
  ∀ call ∈ program.calls, form.Supplies count call

/-- The programs of a template have a place for every call, and all that a call looks up is
there.
-/
def Complete (form : Compiled) (count : Nat) : Prop :=
  ∀ entry program,
    form.program? entry = some program
    → program.strings.length = program.calls.length + 1 ∧ form.SuppliesAll count program

end Compiled

/-- A program has one run of characters more than calls, by induction on its steps. -/
theorem Program.length_strings (program : Program)
    : program.strings.length = program.calls.length + 1 := by
  induction program with
  | nil => rfl
  | cons instruction rest ih =>
      cases instruction with
      | call call => simpa [strings, calls] using ih
      | write piece =>
          cases isRest : strings rest with
          | nil => simp [isRest] at ih
          | cons first others =>
              simp only [isRest] at ih
              simpa [strings, calls, isRest] using ih

-----------------------------------------------------------------------------------------
-- Programs
-----------------------------------------------------------------------------------------

namespace Compiled

variable {form : Compiled} {count : Nat}

namespace SuppliesAll

variable {program others : Program}

theorem nil : form.SuppliesAll count [] := by
  simp [SuppliesAll, Program.calls]

theorem append (first : form.SuppliesAll count program) (second : form.SuppliesAll count others)
    : form.SuppliesAll count (program ++ others) := by
  intro call member
  simp only [Program.calls, List.filterMap_append] at member
  rcases List.mem_append.mp member with early | late
  · exact first call early
  · exact second call late

theorem piece (piece : Piece) (rest : form.SuppliesAll count program)
    : form.SuppliesAll count (.write piece :: program) := by
  simpa [SuppliesAll, Program.calls] using rest

theorem pieces (pieces : List Piece) : form.SuppliesAll count (pieces.map .write) := by
  simp [SuppliesAll, Program.calls, List.filterMap_map]

theorem call {call : Call} (supplied : form.Supplies count call)
    : form.SuppliesAll count [.call call] := by
  simpa [SuppliesAll, Program.calls] using supplied

end SuppliesAll

/-- What reading a tree and looking its components up says about one node. -/
structure Describes (form : Compiled) (count : Nat) (branch : Branch) : Prop where
  found : form.tree.branch? branch.node.id = some branch
  notes : branch.node.spreads = Attribute.notes branch.node.attributes
  attributes : ∀ written ∈ branch.node.attributes, ∀ slot ∈ written.slot?, slot < count
  slots : ∀ slot, .slot slot ∈ branch.children → slot < count
  component
    : ∀ name, branch.node.tag = .component name → (form.component? branch.node.id).isSome = true

namespace Describes

variable {branch : Branch} {entry : Nat} {written : Attribute} {program : Program} {tag : String}

theorem supplied (described : form.Describes count branch) : branch.node.Supplied count := by
  refine ⟨described.attributes, fun note member => ?_⟩
  rw [described.notes] at member
  obtain ⟨location, isHere, -⟩ := Node.mem_notes.mp member
  exact described.attributes _ (List.mem_of_getElem? isHere) note.slot rfl

/-- What a named attribute compiles to reads the slot of the attribute. -/
theorem ofNamed {name : String} {value : AttributeValue}
    (inside : ∀ slot, value = .slot slot → slot < count)
    (compiled : Program.ofNamed branch.node name value = .ok program)
    : form.SuppliesAll count program := by
  simp only [Program.ofNamed] at compiled
  split at compiled
  next slot =>
      split at compiled <;> obtain rfl := Except.ok.inj compiled <;>
        exact SuppliesAll.call (inside slot rfl)
  all_goals
    split at compiled
    · cases compiled
    · obtain rfl := Except.ok.inj compiled
      exact SuppliesAll.pieces _

/-- What an attribute compiles to finds the attribute again. -/
theorem ofAttribute (described : form.Describes count branch)
    (isHere : branch.node.attributes[entry]? = some written)
    (compiled : Program.ofAttribute branch.node entry written = .ok program)
    : form.SuppliesAll count program := by
  have supplied := described.supplied
  cases written with
  | spread slot location =>
      obtain rfl := Except.ok.inj compiled
      obtain ⟨note, isNote, isSlot, -⟩ := Node.spreadAt?_eq described.notes isHere
      refine SuppliesAll.call ⟨branch, described.found, ?_, ?_, supplied⟩
      · simp only [isHere, Option.map_some, Attribute.kind]
      · simp only [isHere, isNote, isSlot, Option.map_some, Option.bind_some, Attribute.slot?]
  | dynamicName slot location =>
      obtain rfl := Except.ok.inj compiled
      refine SuppliesAll.call ⟨branch, described.found, ?_, supplied⟩
      simp only [isHere, Option.map_some, Attribute.kind]
  | named name value location =>
      simp only [Program.ofAttribute] at compiled
      split at compiled
      · obtain rfl := Except.ok.inj compiled
        exact SuppliesAll.nil
      split at compiled
      · cases compiled
      split at compiled
      · obtain rfl := Except.ok.inj compiled
        refine SuppliesAll.call ⟨branch, described.found, ?_, supplied⟩
        simp only [isHere, Option.map_some, Attribute.kind]
      · refine ofNamed (fun slot isSlot => ?_) compiled
        apply described.attributes _ (List.mem_of_getElem? isHere) slot
        simp only [isSlot, Attribute.slot?, Option.mem_def]

/-- What attributes compile to finds them again, by induction on those from a position on. -/
theorem ofAttributes (described : form.Describes count branch) {rest : List Attribute}
    (isRest : branch.node.attributes.drop entry = rest)
    (compiled : Program.ofAttributes branch.node entry rest = .ok program)
    : form.SuppliesAll count program := by
  induction rest generalizing entry program with
  | nil =>
      obtain rfl := Except.ok.inj compiled
      exact SuppliesAll.nil
  | cons first rest ih =>
      obtain ⟨isHere, isLater⟩ := Node.drop_cons isRest
      obtain ⟨start, others, isStart, isOthers, rfl⟩ := Program.ofAttributes_cons compiled
      exact (described.ofAttribute isHere isStart).append (ih isLater isOthers)

/-- The beginning of an element finds the node and its attributes. -/
theorem ofOpening (described : form.Describes count branch) {top : Bool}
    (isElement : branch.node.tag = .element tag)
    (compiled : Program.ofOpening branch.node tag top = .ok program)
    : form.SuppliesAll count program := by
  obtain ⟨-, rfl⟩ | ⟨-, attributes, isAttributes, rfl⟩ := Program.ofOpening_eq compiled
  · refine SuppliesAll.call ⟨branch, described.found, ?_, described.supplied⟩
    simp only [Node.elementName?_element isElement, Option.isSome_some]
  · refine (SuppliesAll.piece _ (described.ofAttributes rfl isAttributes)).append ?_
    cases top with
    | false => exact SuppliesAll.nil
    | true => exact SuppliesAll.call trivial

theorem ofContentSource (described : form.Describes count branch)
    (isElement : branch.node.tag = .element tag)
    : form.SuppliesAll count (Program.ofContentSource branch.node) := by
  simp only [Program.ofContentSource]
  split
  · refine SuppliesAll.call ⟨branch, described.found, ?_, described.supplied⟩
    simp only [Node.elementName?_element isElement, Option.isSome_some]
  · exact SuppliesAll.nil

end Describes

theorem suppliesAll_ofClosing (tag : String)
    : form.SuppliesAll count (Program.ofClosing tag) := by
  apply SuppliesAll.piece
  split
  · exact SuppliesAll.call trivial
  · exact SuppliesAll.nil

-----------------------------------------------------------------------------------------
-- Children
-----------------------------------------------------------------------------------------

/-- Children whose slots have values and whose nodes are described. -/
structure Covers (form : Compiled) (count : Nat) (children : List Child) : Prop where
  slots : ∀ slot, .slot slot ∈ children → slot < count
  nodes : ∀ branch ∈ Child.branchesOf children, form.Describes count branch

theorem Covers.cons {first : Child} {rest : List Child}
    (covers : form.Covers count (first :: rest))
    : form.Covers count [first] ∧ form.Covers count rest := by
  constructor
  · refine ⟨fun slot member => covers.slots slot ?_, fun branch member => covers.nodes branch ?_⟩
    · exact List.mem_cons.mpr (.inl (List.mem_singleton.mp member))
    · simp only [Child.branchesOf, List.append_nil] at member ⊢
      exact List.mem_append_left _ member
  · refine ⟨fun slot member => covers.slots slot ?_, fun branch member => covers.nodes branch ?_⟩
    · exact List.mem_cons_of_mem _ member
    · exact List.mem_append_right _ member

theorem Covers.inside {node : Node} {children : List Child}
    (covers : form.Covers count [.branch node children])
    : form.Describes count ⟨node, children⟩ ∧ form.Covers count children := by
  have described := covers.nodes ⟨node, children⟩ (by simp [Child.branchesOf, Child.branches])
  refine ⟨described, described.slots, fun branch member => covers.nodes branch ?_⟩
  simp [Child.branchesOf, Child.branches, member]

/-- The nodes among children that are handed on as values get programs of their own, by
induction on the children.
-/
theorem ofNested_program {children : List Child} {programs : List (Nat × Program)}
    (compiled : Program.ofNested children = .ok programs) {node : Node} {inner : List Child}
    (member : .branch node inner ∈ children)
    : ∃ program, (node.id, program) ∈ programs := by
  induction children generalizing programs with
  | nil => cases member
  | cons first rest ih =>
      cases first with
      | text | slot =>
          simp only [Program.ofNested] at compiled
          exact ih compiled (by simpa using member)
      | branch other others =>
          obtain ⟨output, later, -, isLater, rfl⟩ := Program.ofNested_branch compiled
          rcases List.mem_cons.mp member with same | member
          · obtain ⟨rfl, rfl⟩ := Child.branch.inj same
            exact ⟨output.1, by simp⟩
          · obtain ⟨program, isProgram⟩ := ih isLater member
            exact ⟨program, by simp [isProgram]⟩

/-- All that is handed to a component is there when its children have got their programs. -/
theorem Describes.suppliesProps {node : Node} {children : List Child}
    (described : form.Describes count ⟨node, children⟩) {programs : List (Nat × Program)}
    (compiled : Program.ofNested children = .ok programs) (kept : programs ⊆ form.programs)
    : form.SuppliesProps count ⟨node, children⟩ := by
  refine ⟨described.supplied, fun child member => ?_⟩
  cases child with
  | text => trivial
  | slot slot => exact described.slots slot member
  | branch inner others =>
      obtain ⟨program, isProgram⟩ := ofNested_program compiled member
      exact List.lookup_isSome_iff.mpr ⟨_, kept isProgram, by simp⟩

/-- The calls of an output, in its own program and in those inside, find what they look up. -/
structure SuppliesOutput (form : Compiled) (count : Nat) (output : Program.Output) : Prop where
  program : form.SuppliesAll count output.1
  nested : ∀ inner ∈ output.2, form.SuppliesAll count inner.2

mutual

/-- The calls of what a child compiles to find what they look up, by induction on the child. -/
theorem suppliesOutput_ofChild
    : ∀ child {top leadNewline output},
        form.Covers count [child]
        → Program.ofChild top leadNewline child = .ok output
        → output.2 ⊆ form.programs
        → form.SuppliesOutput count output
  | .text text, top, leadNewline, output, _, compiled, _ => by
      obtain rfl := Except.ok.inj compiled
      exact ⟨SuppliesAll.call trivial, by simp⟩
  | .slot slot, top, leadNewline, output, covers, compiled, _ => by
      obtain rfl := Except.ok.inj compiled
      exact ⟨SuppliesAll.call (covers.slots slot (List.mem_singleton_self _)), by simp⟩
  | .branch node children, top, leadNewline, output, covers, compiled, kept => by
      obtain ⟨described, inner⟩ := covers.inside
      cases Program.ofChild_branch compiled with
      | fragment isFragment inside => exact suppliesOutput_ofChildren children inner inside kept
      | component isComponent inside =>
          refine ⟨SuppliesAll.call ⟨_, described.found, ?_, ?_⟩,
            suppliesAll_ofNested children inner inside kept⟩
          · exact described.component _ isComponent
          · exact described.suppliesProps inside kept
      | control isElement _ _ inside =>
          refine ⟨SuppliesAll.call ⟨_, described.found, ?_, ?_⟩,
            suppliesAll_ofNested children inner inside kept⟩
          · simp only [Node.elementName?_element isElement, Option.isSome_some]
          · exact described.suppliesProps inside kept
      | void isElement _ _ begins _ =>
          have opening := described.ofOpening isElement begins
          refine ⟨?_, by simp⟩
          exact (opening.append (described.ofContentSource isElement)).append
            (SuppliesAll.pieces [.selfClose])
      | childless isElement _ _ begins _ _ =>
          have opening := described.ofOpening isElement begins
          refine ⟨?_, by simp⟩
          exact (opening.append (.piece _ (described.ofContentSource isElement))).append
            (suppliesAll_ofClosing _)
      | around isElement _ _ begins _ _ inside =>
          have opening := described.ofOpening isElement begins
          have content := suppliesOutput_ofChildren children inner inside kept
          refine ⟨?_, content.nested⟩
          exact (opening.append (.piece _ content.program)).append (suppliesAll_ofClosing _)

/-- The calls of what children compile to find what they look up. -/
theorem suppliesOutput_ofChildren
    : ∀ children {top leadNewline output},
        form.Covers count children
        → Program.ofChildren top leadNewline children = .ok output
        → output.2 ⊆ form.programs
        → form.SuppliesOutput count output
  | [], top, leadNewline, output, _, compiled, _ => by
      obtain rfl := Except.ok.inj compiled
      exact ⟨SuppliesAll.nil, by simp⟩
  | first :: rest, top, leadNewline, output, covers, compiled, kept => by
      obtain ⟨start, others, isStart, isOthers, rfl⟩ := Program.ofChildren_cons compiled
      obtain ⟨keptStart, keptOthers⟩ := List.append_subset.mp kept
      have here := suppliesOutput_ofChild first covers.cons.1 isStart keptStart
      have later := suppliesOutput_ofChildren rest covers.cons.2 isOthers keptOthers
      exact ⟨here.program.append later.program,
        List.forall_mem_append.mpr ⟨here.nested, later.nested⟩⟩

/-- The calls of the programs of nested nodes find what they look up. -/
theorem suppliesAll_ofNested
    : ∀ children {programs},
        form.Covers count children
        → Program.ofNested children = .ok programs
        → programs ⊆ form.programs
        → ∀ inner ∈ programs, form.SuppliesAll count inner.2
  | [], programs, _, compiled, _ => by
      obtain rfl := Except.ok.inj compiled
      simp
  | .text _ :: rest, programs, covers, compiled, kept
  | .slot _ :: rest, programs, covers, compiled, kept => by
      simp only [Program.ofNested] at compiled
      exact suppliesAll_ofNested rest covers.cons.2 compiled kept
  | .branch node children :: rest, programs, covers, compiled, kept => by
      obtain ⟨output, others, isOutput, isOthers, rfl⟩ := Program.ofNested_branch compiled
      obtain ⟨keptInside, keptLater⟩ := List.append_subset.mp kept
      obtain ⟨-, keptOthers⟩ := List.cons_subset.mp keptLater
      have here := suppliesOutput_ofChild (.branch node children) covers.cons.1 isOutput keptInside
      have later := suppliesAll_ofNested rest covers.cons.2 isOthers keptOthers
      exact List.forall_mem_append.mpr
        ⟨here.nested, List.forall_mem_cons.mpr ⟨here.program, later⟩⟩

end

-----------------------------------------------------------------------------------------
-- Whole templates
-----------------------------------------------------------------------------------------

/-- A template is read from fragments and compiled with the components of one registry. -/
structure MadeOf (form : Compiled) (registry : Registry) (options : ReadOptions)
    (fragments : List String)
    : Prop where
  parsed : Tree.parse registry.resolver options fragments = .ok form.tree
  components : form.components = registry.componentsOf form.tree
  compiled : Compiled.ofTree form.tree form.components = .ok form

end Compiled

namespace Tree.SlotsAgree

variable {tree : Tree} {count slot : Nat}

/-- A slot that an attribute refers to has a value. -/
theorem attribute_lt (agree : SlotsAgree count tree) {branch : Branch}
    (member : branch ∈ tree.branches) {written : Attribute}
    (isWritten : written ∈ branch.node.attributes) (isSlot : slot ∈ written.slot?)
    : slot < count := by
  by_contra outside
  have unused := (agree.outside slot (Nat.le_of_not_lt outside)).1
  refine List.filter_eq_nil_iff.mp unused (branch.node.id, written) ?_ (by simpa using isSlot)
  exact List.mem_flatMap.mpr ⟨branch, member, List.mem_map_of_mem isWritten⟩

/-- A slot that is placed somewhere has a value. -/
theorem slotted_lt (agree : SlotsAgree count tree) {around : Option Nat}
    (placed : (around, slot) ∈ tree.slotted)
    : slot < count := by
  by_contra outside
  have unused := (agree.outside slot (Nat.le_of_not_lt outside)).2
  exact List.filter_eq_nil_iff.mp (List.map_eq_nil_iff.mp unused) _ placed (by simp)

theorem root_lt (agree : SlotsAgree count tree) (isRoot : .slot slot ∈ tree.roots)
    : slot < count := by
  refine @slotted_lt _ _ _ agree none (List.mem_append_left _ ?_)
  exact List.mem_filterMap.mpr ⟨.slot slot, isRoot, rfl⟩

theorem child_lt (agree : SlotsAgree count tree) {branch : Branch}
    (member : branch ∈ tree.branches) (isChild : .slot slot ∈ branch.children)
    : slot < count := by
  refine @slotted_lt _ _ _ agree (some branch.node.id) (List.mem_append_right _ ?_)
  refine List.mem_flatMap.mpr ⟨branch, member, ?_⟩
  exact List.mem_filterMap.mpr ⟨.slot slot, isChild, rfl⟩

end Tree.SlotsAgree

namespace Compiled.MadeOf

variable {form : Compiled} {registry : Registry} {options : ReadOptions}
  {fragments : List String}

theorem slotsAgree (made : form.MadeOf registry options fragments)
    : Tree.SlotsAgree (slotCount fragments) form.tree := by
  have agree := Tree.parse_slots made.parsed
  rwa [show max fragments.length 1 - 1 = slotCount fragments by simp only [slotCount]; omega]
    at agree

/-- A component node has a component, because it was read as one. -/
theorem component (made : form.MadeOf registry options fragments) {branch : Branch}
    (member : branch ∈ form.tree.branches) {name : String}
    (isComponent : branch.node.tag = .component name)
    : (form.component? branch.node.id).isSome = true := by
  have named := ((Tree.parse_read made.parsed).roots.branches branch member).opened.named
  obtain ⟨component, isFound⟩ :=
    Option.isSome_iff_exists.mp (Tree.component_found named isComponent).2
  have listed : (branch.node.id, component) ∈ form.components := by
    rw [made.components]
    refine List.mem_filterMap.mpr ⟨branch, member, ?_⟩
    simp only [isComponent, isFound, Option.map_some]
  exact List.lookup_isSome_iff.mpr ⟨_, listed, by simp⟩

/-- Every node of a template that can be compiled is described. -/
theorem describes (made : form.MadeOf registry options fragments) {branch : Branch}
    (member : branch ∈ form.tree.branches)
    : form.Describes (slotCount fragments) branch := by
  have read := Tree.parse_read made.parsed
  have agree := made.slotsAgree
  exact {
    found := read.branch?_id member
    notes := (read.roots.branches branch member).opened.spreads
    attributes := fun _ written _ isSlot => agree.attribute_lt member written isSlot
    slots := fun _ isChild => agree.child_lt member isChild
    component := fun _ isComponent => made.component member isComponent
  }

/-- All calls of a template find what they look up. -/
theorem complete (made : form.MadeOf registry options fragments)
    : form.Complete (slotCount fragments) := by
  have covers : form.Covers (slotCount fragments) form.tree.roots :=
    ⟨fun _ isRoot => made.slotsAgree.root_lt isRoot, fun _ member => made.describes member⟩
  obtain ⟨output, isOutput, isForm⟩ := Program.ofTree_eq made.compiled
  have root : form.root = output.1 := by rw [isForm]
  have programs : form.programs = output.2 := by rw [isForm]
  have supplied := Compiled.suppliesOutput_ofChildren _ covers isOutput (by simp [programs])
  intro entry program isProgram
  refine ⟨program.length_strings, ?_⟩
  cases entry with
  | none => exact Option.some.inj isProgram ▸ root ▸ supplied.program
  | some id =>
      obtain ⟨before, after, isPrograms, -⟩ := List.lookup_eq_some_iff.mp isProgram
      refine supplied.nested (id, program) ?_
      rw [← programs, isPrograms]
      simp

end Compiled.MadeOf

end TaggedMarkup
