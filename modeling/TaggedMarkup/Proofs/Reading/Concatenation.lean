import TaggedMarkup.Proofs.Fields
import TaggedMarkup.Proofs.Reading.Shift

/-! Two templates with an interpolated child between them are read as one template. Its tree is
the tree of the first one, the child, and the tree of the second one with all numbers moved on.
-/

namespace TaggedMarkup

-----------------------------------------------------------------------------------------
-- Trees behind other trees
-----------------------------------------------------------------------------------------

/-- How far the numbers of a tree move when another template stands before its own: by the
nodes of the other one, and by its fragments, which count the slots too.
-/
structure Shift where
  nodes : Nat
  fragments : Nat

def Attribute.shifted (fragments : Nat) : Attribute → Attribute
  | .named name value location =>
      .named name (value.shifted fragments) (location.shifted fragments)
  | .spread slot location => .spread (fragments + slot) (location.shifted fragments)
  | .dynamicName slot location => .dynamicName (fragments + slot) (location.shifted fragments)

def SpreadNote.shifted (fragments : Nat) (note : SpreadNote) : SpreadNote :=
  { note with slot := fragments + note.slot }

/-- The node with its number, its parent, its slots and its locations moved on. Positions among
attributes and children stay.
-/
def Node.shifted (shift : Shift) (node : Node) : Node :=
  { node with
    id := shift.nodes + node.id
    parent := node.parent.map (shift.nodes + ·)
    attributes := node.attributes.map (Attribute.shifted shift.fragments)
    opened := node.opened.shifted shift.fragments
    closed := node.closed.map (Location.shifted shift.fragments)
    dynamicAttributes := node.dynamicAttributes.map fun (name, slot) =>
      (name, shift.fragments + slot)
    dynamicChildren := node.dynamicChildren.map fun (position, slot) =>
      (position, shift.fragments + slot)
    spreads := node.spreads.map (SpreadNote.shifted shift.fragments) }

mutual

def Child.shifted (shift : Shift) : Child → Child
  | .text written => .text written
  | .slot index => .slot (shift.fragments + index)
  | .branch node children => .branch (node.shifted shift) (Child.shiftedAll shift children)

def Child.shiftedAll (shift : Shift) : List Child → List Child
  | [] => []
  | child :: rest => child.shifted shift :: Child.shiftedAll shift rest

end

def Branch.shifted (shift : Shift) (branch : Branch) : Branch :=
  ⟨branch.node.shifted shift, Child.shiftedAll shift branch.children⟩

def SlotKind.shifted (shift : Shift) : SlotKind → SlotKind
  | .attribute node name => .attribute (shift.nodes + node) name
  | .attributeName node => .attributeName (shift.nodes + node)
  | .spread node => .spread (shift.nodes + node)
  | .child parent => .child (parent.map (shift.nodes + ·))
  | .ignored => .ignored

/-- The tree of a template of the given number of fragments, then an interpolated child, then
another tree.
-/
def Tree.followedBy (tree : Tree) (fragments : Nat) (other : Tree) : Tree :=
  let shift : Shift := ⟨tree.branches.length, fragments⟩
  {
    roots := tree.roots ++ .slot (fragments - 1) :: Child.shiftedAll shift other.roots
    slots := tree.slots ++ .child none :: other.slots.map (SlotKind.shifted shift)
    ties := tree.ties ++ other.ties.filter fun name => !tree.ties.contains name
  }

theorem Child.shiftedAll_append (shift : Shift) (children others : List Child)
    : Child.shiftedAll shift (children ++ others)
      = Child.shiftedAll shift children ++ Child.shiftedAll shift others := by
  induction children with
  | nil => rfl
  | cons child rest ih => simp only [List.cons_append, Child.shiftedAll, ih]

theorem Child.length_shiftedAll (shift : Shift) (children : List Child)
    : (Child.shiftedAll shift children).length = children.length := by
  induction children with
  | nil => rfl
  | cons child rest ih => simp only [Child.shiftedAll, List.length_cons, ih]

@[simp]
theorem Attribute.shifted_zero : Attribute.shifted 0 = id := by
  funext written
  cases written <;> simp [Attribute.shifted]

@[simp]
theorem SpreadNote.shifted_zero : SpreadNote.shifted 0 = id := by
  funext note
  simp [SpreadNote.shifted]

@[simp]
theorem Node.shifted_zero (node : Node) : node.shifted ⟨0, 0⟩ = node := by
  simp [Node.shifted]

@[simp]
theorem SlotKind.shifted_zero : SlotKind.shifted ⟨0, 0⟩ = id := by
  funext kind
  cases kind <;> simp [SlotKind.shifted]

mutual

/-- Behind nothing a child is as it was. -/
theorem Child.shifted_zero (child : Child) : child.shifted ⟨0, 0⟩ = child := by
  cases child with
  | text written => rfl
  | slot index => simp [shifted]
  | branch node children => simp [shifted, Child.shiftedAll_zero children]

theorem Child.shiftedAll_zero (children : List Child)
    : Child.shiftedAll ⟨0, 0⟩ children = children := by
  cases children with
  | nil => rfl
  | cons child rest =>
      simp only [shiftedAll, Child.shifted_zero child, Child.shiftedAll_zero rest]

end

mutual

/-- The nodes keep their order. -/
theorem Child.branches_shifted (shift : Shift) (child : Child)
    : (child.shifted shift).branches = child.branches.map (Branch.shifted shift) := by
  cases child with
  | text written => rfl
  | slot index => rfl
  | branch node children =>
      simp only [shifted, branches, List.map_cons, Branch.shifted,
        Child.branchesOf_shiftedAll shift children]

theorem Child.branchesOf_shiftedAll (shift : Shift) (children : List Child)
    : Child.branchesOf (Child.shiftedAll shift children)
      = (Child.branchesOf children).map (Branch.shifted shift) := by
  cases children with
  | nil => rfl
  | cons child rest =>
      simp only [shiftedAll, branchesOf, List.map_append, Child.branches_shifted shift child,
        Child.branchesOf_shiftedAll shift rest]

end

namespace Tree

/-- The nodes of both trees are numbered in one go. -/
theorem branches_followedBy (tree : Tree) (fragments : Nat) (other : Tree)
    : (tree.followedBy fragments other).branches
      = tree.branches
        ++ other.branches.map (Branch.shifted ⟨tree.branches.length, fragments⟩) := by
  simp only [branches, followedBy, branchesOf_append, Child.branchesOf, Child.branches,
    List.nil_append, Child.branchesOf_shiftedAll]

-----------------------------------------------------------------------------------------
-- Nodes
-----------------------------------------------------------------------------------------

/-- Attributes keep their names. -/
@[simp]
theorem name?_shifted (fragments : Nat) (written : Attribute)
    : (written.shifted fragments).name? = written.name? := by
  cases written <;> rfl

theorem notedAfter_shifted (shift : Shift) (node : Node)
    : notedAfter (node.shifted shift) = (notedAfter node).shifted shift := by
  simp [notedAfter, Node.shifted, SpreadNote.shifted, Function.comp_def, ← List.map_drop]

theorem withNamed_shifted (shift : Shift) (node : Node) (name : String) (value : AttributeValue)
    (location : Location)
    : withNamed (node.shifted shift) name (value.shifted shift.fragments)
        (location.shifted shift.fragments)
      = (withNamed node name value location).shifted shift := by
  cases value with
  | slot index =>
      simp [withNamed, Node.shifted, Attribute.shifted, AttributeValue.shifted,
        Node.elementName?, ← Fields.insert_map]
  | _ =>
      simp [withNamed, Node.shifted, Attribute.shifted, AttributeValue.shifted,
        Node.elementName?]

theorem withSpread_shifted (shift : Shift) (node : Node) (slot : Nat) (location : Location)
    : withSpread (node.shifted shift) (shift.fragments + slot) (location.shifted shift.fragments)
      = (withSpread node slot location).shifted shift := by
  have names
      : (node.attributes.map (Attribute.shifted shift.fragments)).filterMap Attribute.name?
        = node.attributes.filterMap Attribute.name? := by
    simp
  simp only [withSpread, Node.shifted, names]
  simp [Attribute.shifted, SpreadNote.shifted]

theorem withDynamicName_shifted (shift : Shift) (node : Node) (slot : Nat) (location : Location)
    : withDynamicName (node.shifted shift) (shift.fragments + slot)
        (location.shifted shift.fragments)
      = (withDynamicName node slot location).shifted shift := by
  simp [withDynamicName, Node.shifted, Attribute.shifted]

-----------------------------------------------------------------------------------------
-- Settings
-----------------------------------------------------------------------------------------

/-- What is read before a template and what slots follow it, when it is read as a part of a
longer one. No closing tag of the template can belong to what is before it.
-/
structure Setting where
  nodes : Nat
  roots : List Child
  before : List SlotKind
  after : List SlotKind
  ties : List String
  apart : ∀ name location, closeLast? name location roots = none

/-- The slots before are as many as the fragments before. -/
def Setting.shift (setting : Setting) : Shift :=
  ⟨setting.nodes, setting.before.length⟩

def Frame.shifted (shift : Shift) (frame : Frame) : Frame :=
  ⟨frame.node.shifted shift, Child.shiftedAll shift frame.children⟩

/-- What has been read of a template, in its setting. -/
def Building.inside (setting : Setting) (building : Building) : Building where
  frames := building.frames.map (Frame.shifted setting.shift)
  roots := setting.roots ++ Child.shiftedAll setting.shift building.roots
  current := building.current.map (Node.shifted setting.shift)
  afterVoid := building.afterVoid
  nextId := setting.nodes + building.nextId
  slots := setting.before ++ building.slots.map (SlotKind.shifted setting.shift) ++ setting.after
  ties := setting.ties ++ building.ties.filter fun name => !setting.ties.contains name

variable (setting : Setting) (building : Building) {resolver : Resolver} {options : ReadOptions}

theorem parent?_inside
    : (building.inside setting).parent? = building.parent?.map (setting.nodes + ·) := by
  obtain ⟨frames, roots, current, afterVoid, nextId, slots, ties⟩ := building
  cases frames <;> rfl

theorem addChild_inside (child : Child)
    : (building.inside setting).addChild (child.shifted setting.shift)
      = (building.addChild child).inside setting := by
  obtain ⟨frames, roots, current, afterVoid, nextId, slots, ties⟩ := building
  cases frames <;>
    simp [Building.addChild, Building.inside, Frame.shifted, Child.shiftedAll_append,
      Child.shiftedAll]

/-- A name is tied in the setting unless it is tied before. -/
theorem tie_inside (name : String)
    : (building.inside setting).tie name = (building.tie name).inside setting := by
  by_cases before : name ∈ setting.ties
  · by_cases present : name ∈ building.ties <;>
      simp [Building.tie, Building.inside, before, present]
  · by_cases present : name ∈ building.ties <;>
      simp [Building.tie, Building.inside, before, present]

theorem setSlot_inside {slot : Nat} (inside : slot < building.slots.length) (kind : SlotKind)
    : (building.inside setting).setSlot (setting.shift.fragments + slot)
        (kind.shifted setting.shift)
      = (building.setSlot slot kind).inside setting := by
  simp [Building.setSlot, Building.inside, Setting.shift, inside, List.map_set]

theorem addText_inside (raw : String)
    : addText options (building.inside setting) raw
      = (addText options building raw).inside setting := by
  have sameFrames : (building.inside setting).frames.isEmpty = building.frames.isEmpty := by
    simp [Building.inside]
  simp only [addText, sameFrames]
  split
  · rfl
  split
  · rfl
  · rw [show ∀ text, Child.text text = (Child.text text).shifted setting.shift from fun _ => rfl,
      addChild_inside]
    rfl

theorem openTag_inside (name : String) (location : Location)
    : openTag resolver options (building.inside setting) name
        (location.shifted setting.shift.fragments)
      = (openTag resolver options building name location).inside setting := by
  have tied
      : (if (resolveTag resolver name).2 then (building.inside setting).tie name
          else building.inside setting)
        = (if (resolveTag resolver name).2 then building.tie name else building).inside
            setting := by
    split
    · exact tie_inside setting building name
    · rfl
  simp only [openTag, tied, parent?_inside]
  simp [Building.inside, Node.shifted, Setting.shift, Nat.add_assoc]

theorem openEnd_inside (selfClosing : Bool)
    : openEnd (building.inside setting) selfClosing
      = (openEnd building selfClosing).inside setting := by
  obtain ⟨frames, roots, current, afterVoid, nextId, slots, ties⟩ := building
  cases current with
  | none => rfl
  | some node =>
      have isVoid : ((notedAfter node).shifted setting.shift).isVoid = (notedAfter node).isVoid :=
        rfl
      simp only [openEnd, Building.inside, Option.map_some, notedAfter_shifted, isVoid]
      split
      · cases frames <;>
          simp [Building.addChild, Frame.shifted, Child.shiftedAll_append, Child.shiftedAll,
            Child.shifted, Node.shifted]
      split
      · cases frames <;>
          simp [Building.addChild, Frame.shifted, Child.shiftedAll_append, Child.shiftedAll,
            Child.shifted, Node.shifted]
      · simp [Frame.shifted, Child.shiftedAll]

/-- A closing tag of a void element is noted behind other children. -/
theorem closeLast?_append {name : String} {location : Location} {before : List Child}
    (apart : closeLast? name location before = none) (children : List Child)
    : closeLast? name location (before ++ children)
      = (closeLast? name location children).map (before ++ ·) := by
  induction before with
  | nil => simp
  | cons first rest ih =>
      cases rest with
      | nil =>
          cases children with
          | nil => simpa [closeLast?] using apart
          | cons second others => simp [closeLast?_cons_cons]
      | cons second rest =>
          rw [closeLast?_cons_cons, Option.map_eq_none_iff] at apart
          rw [List.cons_append, List.cons_append, closeLast?_cons_cons, ← List.cons_append,
            ih apart, Option.map_map]
          rfl

theorem closeLast?_shifted (shift : Shift) (name : String) (location : Location)
    (children : List Child)
    : closeLast? name (location.shifted shift.fragments) (Child.shiftedAll shift children)
      = (closeLast? name location children).map (Child.shiftedAll shift) := by
  induction children with
  | nil => rfl
  | cons first rest ih =>
      cases rest with
      | nil =>
          cases first with
          | branch node children =>
              by_cases same : node.name = name <;>
                simp [Child.shiftedAll, Child.shifted, closeLast?, Node.shifted, same]
          | _ => rfl
      | cons second others =>
          rw [closeLast?_cons_cons, Option.map_map]
          simp only [Child.shiftedAll] at ih ⊢
          rw [closeLast?_cons_cons, ih, Option.map_map]
          rfl

theorem closeVoid?_inside (name : String) (location : Location)
    : closeVoid? (building.inside setting) name (location.shifted setting.shift.fragments)
      = (closeVoid? building name location).map (Building.inside setting) := by
  obtain ⟨frames, roots, current, afterVoid, nextId, slots, ties⟩ := building
  cases afterVoid with
  | false => rfl
  | true =>
      cases frames with
      | nil =>
          simp [closeVoid?, Building.inside, closeLast?_append (setting.apart ..),
            closeLast?_shifted, Function.comp_def]
      | cons frame outer =>
          simp [closeVoid?, Building.inside, Frame.shifted, closeLast?_shifted,
            Function.comp_def]

theorem closeTag_inside {name : String} {location : Location} {closed : Building}
    (closing : closeTag resolver building name location = .ok closed)
    : closeTag resolver (building.inside setting) name (location.shifted setting.shift.fragments)
      = .ok (closed.inside setting) := by
  have void := closeVoid?_inside setting building name location
  cases frames : building.frames with
  | nil =>
      have isNil : (building.inside setting).frames = [] := by simp [Building.inside, frames]
      simp only [closeTag, frames, isNil, void] at closing ⊢
      cases isVoid : closeVoid? building name location with
      | none => simp [isVoid] at closing
      | some last =>
          obtain rfl : last = closed := by simpa [isVoid] using closing
          rfl
  | cons frame outer =>
      have isCons
          : (building.inside setting).frames
            = frame.shifted setting.shift :: outer.map (Frame.shifted setting.shift) := by
        simp [Building.inside, frames]
      have sameName : closes resolver (frame.shifted setting.shift).node name
          = closes resolver frame.node name :=
        rfl
      simp only [closeTag, frames, isCons, void, sameName] at closing ⊢
      cases isClosing : closes resolver frame.node name with
      | true =>
          simp only [isClosing, if_true, Except.ok.injEq] at closing ⊢
          rw [← closing]
          exact congrArg (fun added : Building => { added with afterVoid := false })
            (addChild_inside setting { building with frames := outer }
              (.branch { frame.node with closed := some location, isClosed := true }
                frame.children))
      | false =>
          cases isVoid : closeVoid? building name location with
          | none => simp [isVoid, isClosing] at closing
          | some last =>
              obtain rfl : last = closed := by simpa [isVoid, isClosing] using closing
              rfl

theorem changeCurrent_inside {change behind : Node → Node}
    (same : ∀ node, behind (node.shifted setting.shift) = (change node).shifted setting.shift)
    : changeCurrent (building.inside setting) behind
      = (changeCurrent building change).inside setting := by
  simp [changeCurrent, Building.inside, Function.comp_def, same]

theorem noteSlot_inside {slot : Nat} (inside : slot < building.slots.length)
    {kind : Nat → SlotKind}
    (moves : ∀ id, (kind id).shifted setting.shift = kind (setting.nodes + id))
    : noteSlot (building.inside setting) (setting.shift.fragments + slot) kind
      = (noteSlot building slot kind).inside setting := by
  cases isCurrent : building.current with
  | none => simp [noteSlot, Building.inside, isCurrent]
  | some node =>
      have current
          : (building.inside setting).current = some (node.shifted setting.shift) := by
        simp [Building.inside, isCurrent]
      simp only [noteSlot, isCurrent, current, ← setSlot_inside setting building inside, moves]
      rfl

/-- A slot of the open tag that is being read is noted, and the tag is changed. -/
theorem changeNoted_inside {slot : Nat} (inside : slot < building.slots.length)
    {kind : Nat → SlotKind} {change behind : Node → Node}
    (moves : ∀ id, (kind id).shifted setting.shift = kind (setting.nodes + id))
    (same : ∀ node, behind (node.shifted setting.shift) = (change node).shifted setting.shift)
    : changeCurrent (noteSlot (building.inside setting) (setting.shift.fragments + slot) kind)
        behind
      = (changeCurrent (noteSlot building slot kind) change).inside setting := by
  rw [noteSlot_inside setting building inside moves, changeCurrent_inside setting _ same]

theorem addSlot_inside {slot : Nat} (inside : slot < building.slots.length)
    : addSlot (building.inside setting) (setting.shift.fragments + slot)
      = (addSlot building slot).inside setting := by
  have added (noted : Building) (same : noted.slots = building.slots)
      : { ((noted.inside setting).addChild (.slot (setting.shift.fragments + slot))).setSlot
            (setting.shift.fragments + slot)
            (.child (building.parent?.map (setting.nodes + ·))) with
          afterVoid := false }
        = ({ (noted.addChild (.slot slot)).setSlot slot (.child building.parent?) with
              afterVoid := false } : Building).inside setting := by
    have slots : (noted.addChild (.slot slot)).slots = building.slots :=
      (noted.slots_addChild _).trans same
    have set := setSlot_inside setting (noted.addChild (.slot slot)) (slots ▸ inside)
      (.child building.parent?)
    rw [← addChild_inside] at set
    exact congrArg (fun added : Building => { added with afterVoid := false }) set
  simp only [addSlot, parent?_inside setting building]
  cases frames : building.frames with
  | nil =>
      have isNil : (building.inside setting).frames = [] := by simp [Building.inside, frames]
      simp only [isNil]
      exact added building rfl
  | cons frame outer =>
      have isCons
          : (building.inside setting).frames
            = frame.shifted setting.shift :: outer.map (Frame.shifted setting.shift) := by
        simp [Building.inside, frames]
      let node :=
        { frame.node with
          dynamicChildren := frame.node.dynamicChildren ++ [(frame.children.length, slot)] }
      simp only [isCons]
      refine Eq.trans ?_ (added { building with frames := { frame with node } :: outer } rfl)
      simp [node, Building.inside, Frame.shifted, Node.shifted, Child.length_shiftedAll]

/-- One token of a template is read in a setting as it is read without it. -/
theorem step_inside {token : Token} {next : Building}
    (inside : ∀ slot, token.slot? = some slot → slot < building.slots.length)
    (stepped : step resolver options building token = .ok next)
    : step resolver options (building.inside setting) (token.shifted setting.shift.fragments)
      = .ok (next.inside setting) := by
  cases token with
  | text raw location =>
      obtain rfl := Except.ok.inj stepped
      exact congrArg Except.ok (addText_inside setting building raw)
  | openTag name location =>
      obtain rfl := Except.ok.inj stepped
      exact congrArg Except.ok (openTag_inside setting building name location)
  | openEnd selfClosing =>
      obtain rfl := Except.ok.inj stepped
      exact congrArg Except.ok (openEnd_inside setting building selfClosing)
  | closeTag name location => exact closeTag_inside setting building stepped
  | «attribute» name value location =>
      cases value with
      | literal raw =>
          obtain rfl := Except.ok.inj stepped
          exact congrArg Except.ok (changeCurrent_inside setting building fun node =>
            withNamed_shifted setting.shift node name (.literal (decoded options raw)) location)
      | bare =>
          obtain rfl := Except.ok.inj stepped
          exact congrArg Except.ok (changeCurrent_inside setting building fun node =>
            withNamed_shifted setting.shift node name .bare location)
      | slot index =>
          obtain rfl := Except.ok.inj stepped
          exact congrArg Except.ok (changeNoted_inside setting building (inside index rfl)
            (fun _ => rfl) fun node =>
              withNamed_shifted setting.shift node name (.slot index) location)
  | spread slot location =>
      obtain rfl := Except.ok.inj stepped
      exact congrArg Except.ok (changeNoted_inside setting building (inside slot rfl)
        (fun _ => rfl) fun node => withSpread_shifted setting.shift node slot location)
  | dynamicName slot location =>
      obtain rfl := Except.ok.inj stepped
      exact congrArg Except.ok (changeNoted_inside setting building (inside slot rfl)
        (fun _ => rfl) fun node => withDynamicName_shifted setting.shift node slot location)
  | child slot location =>
      obtain rfl := Except.ok.inj stepped
      exact congrArg Except.ok (addSlot_inside setting building (inside slot rfl))
  | ignored slot =>
      obtain rfl := Except.ok.inj stepped
      rfl

theorem closeTag_slots {building closed : Building} {name : String} {location : Location}
    (closing : closeTag resolver building name location = .ok closed)
    : closed.slots = building.slots := by
  cases TagClosed.of_closeTag closing with
  | frame => exact Building.slots_addChild _ _
  | void closing => cases closing <;> rfl

/-- No token changes how many slots there are. -/
theorem step_length {token : Token} {building next : Building}
    (stepped : step resolver options building token = .ok next)
    : next.slots.length = building.slots.length := by
  cases token with
  | closeTag name location => exact congrArg List.length (closeTag_slots stepped)
  | text raw location =>
      obtain rfl := Except.ok.inj stepped
      simp only [addText]
      split
      · rfl
      split <;> simp [Building.slots_addChild]
  | openTag name location =>
      obtain rfl := Except.ok.inj stepped
      simp only [openTag, Building.tie]
      repeat' split
      all_goals rfl
  | openEnd selfClosing =>
      obtain rfl := Except.ok.inj stepped
      simp only [openEnd]
      repeat' split
      all_goals simp [Building.slots_addChild]
  | «attribute» name value location =>
      cases value <;> obtain rfl := Except.ok.inj stepped <;>
        cases isCurrent : building.current <;>
          simp [changeCurrent, noteSlot, Building.setSlot, isCurrent]
  | spread slot location | dynamicName slot location =>
      obtain rfl := Except.ok.inj stepped
      cases isCurrent : building.current <;>
        simp [changeCurrent, noteSlot, Building.setSlot, isCurrent]
  | child slot location =>
      obtain rfl := Except.ok.inj stepped
      cases frames : building.frames <;>
        simp [addSlot, Building.setSlot, Building.slots_addChild, frames]
  | ignored slot =>
      obtain rfl := Except.ok.inj stepped
      rfl

variable {building}

/-- The tokens of a template are read in a setting as they are read without it, by induction on
them.
-/
theorem steps_inside {tokens : List Token} {last : Building}
    (inside
      : ∀ slot ∈ tokens.filterMap Token.slot?, slot < building.slots.length)
    (stepped : tokens.foldlM (step resolver options) building = .ok last)
    : (tokens.map (Token.shifted setting.shift.fragments)).foldlM (step resolver options)
        (building.inside setting)
      = .ok (last.inside setting) := by
  induction tokens generalizing building with
  | nil =>
      obtain rfl := Except.ok.inj stepped
      rfl
  | cons token rest ih =>
      obtain ⟨reached, one, later⟩ := steps_cons stepped
      have here := step_inside setting building
        (fun slot same => inside slot (List.mem_filterMap.mpr ⟨token, .head _, same⟩)) one
      have following := ih (fun slot member => step_length one ▸ inside slot
        (List.mem_filterMap.mpr (by
          obtain ⟨other, member, same⟩ := List.mem_filterMap.mp member
          exact ⟨other, .tail _ member, same⟩))) later
      simp only [List.map_cons, List.foldlM_cons, here, bind, Except.bind]
      exact following

-----------------------------------------------------------------------------------------
-- Whole templates
-----------------------------------------------------------------------------------------

/-- What stands before a template with more slots behind it: nothing. -/
def Setting.followed (slots : Nat) : Setting where
  nodes := 0
  roots := []
  before := []
  after := List.replicate slots .ignored
  ties := []
  apart _ _ := rfl

/-- What stands before the second one of two templates: the first one and a child. -/
def Setting.behind (tree : Tree) (fragments : Nat) : Setting where
  nodes := tree.branches.length
  roots := tree.roots ++ [.slot (fragments - 1)]
  before := tree.slots ++ [.child none]
  after := []
  ties := tree.ties
  apart name location := by
    cases closed : closeLast? name location (tree.roots ++ [.slot (fragments - 1)]) with
    | none => rfl
    | some children =>
        obtain ⟨before, node, inside, same, -⟩ := closeLast?_eq closed
        cases (List.append_inj' same rfl).2

/-- After the first one of two templates, the child begins the second one. -/
theorem step_between {tree : Tree} {building : Building} {fragments slots : Nat}
    (closed : building.frames = []) (idle : building.current = none)
    (count : building.nextId = tree.branches.length)
    (isTree : tree = ⟨building.roots, building.slots, building.ties⟩)
    (nonempty : 0 < fragments) (nonempty' : 0 < slots)
    (length : tree.slots.length = max fragments 1 - 1) (location : Location)
    : step resolver options (building.inside (.followed slots)) (.child (fragments - 1) location)
      = .ok ((Building.start (slots - 1)).inside (.behind tree fragments)) := by
  obtain ⟨frames, roots, current, afterVoid, nextId, kinds, ties⟩ := building
  obtain rfl : frames = [] := closed
  obtain rfl : current = none := idle
  subst isTree
  simp only at count length
  subst count
  obtain ⟨more, rfl⟩ : ∃ more, slots = more + 1 := ⟨slots - 1, by omega⟩
  have length : kinds.length = fragments - 1 := by omega
  simp [step, addSlot, Building.inside, Building.start, Building.addChild, Building.setSlot,
    Building.parent?, Setting.followed, Setting.behind, Setting.shift, Child.shiftedAll_zero,
    Child.shiftedAll, ← length, List.replicate_succ, SlotKind.shifted]

/-- Two templates that can be read can be read as one, with an interpolated child between them.
The tree is that of the first one, the child, and that of the second one with the numbers of
its nodes, its slots and its fragments moved on.
-/
theorem parse_append {first second : List String} {tree other : Tree} (nonempty : first ≠ [])
    (nonempty' : second ≠ []) (parsed : parse resolver options first = .ok tree)
    (parsed' : parse resolver options second = .ok other)
    : parse resolver options (first ++ second) = .ok (tree.followedBy first.length other)
      ∧ (tree.followedBy first.length other).branches
        = tree.branches
          ++ other.branches.map (Branch.shifted ⟨tree.branches.length, first.length⟩) := by
  refine ⟨?_, branches_followedBy ..⟩
  have slots := (parse_slots parsed).length
  have length : 0 < first.length := List.length_pos_iff.mpr nonempty
  have length' : 0 < second.length := List.length_pos_iff.mpr nonempty'
  have scanned := (parse_eq parsed).1
  have scanned' := (parse_eq parsed').1
  obtain ⟨building, built, -, closed, idle, count, isTree⟩ := parse_built parsed
  obtain ⟨building', built', -, closed', idle', -, isOther⟩ := parse_built parsed'
  obtain ⟨location, scan⟩ := Token.scan_append nonempty nonempty' scanned scanned'
  have start
      : Building.start ((first ++ second).length - 1)
        = (Building.start (first.length - 1)).inside (.followed second.length) := by
    have count : (first ++ second).length - 1 = (first.length - 1) + second.length := by
      rw [List.length_append]
      omega
    rw [count]
    simp [Building.start, Building.inside, Setting.followed, SlotKind.shifted, Child.shiftedAll]
  -- The first template is read with the slots of the second one behind its own.
  have early := steps_inside (.followed second.length)
    (by simp [Token.scan_slots scanned, Building.start]) built
  rw [show (Setting.followed second.length).shift.fragments = 0 from rfl, Token.shifted_zero,
    List.map_id] at early
  have child := @step_between resolver options tree building _ _ closed idle count isTree length
    length' slots location
  have late := steps_inside (.behind tree first.length)
    (by simp [Token.scan_slots scanned', Building.start]) built'
  have fragments : (Setting.behind tree first.length).shift.fragments = first.length := by
    simp only [Setting.behind, Setting.shift, List.length_append, slots, List.length_singleton]
    omega
  rw [fragments] at late
  have steps
      : (Token.scan (first ++ second)).tokens.foldlM (step resolver options)
            (.start ((first ++ second).length - 1))
        = .ok (building'.inside (.behind tree first.length)) := by
    simp only [scan, start, List.foldlM_append, List.foldlM_cons, early, child, late, bind,
      Except.bind]
  have shift : (Setting.behind tree first.length).shift = ⟨tree.branches.length, first.length⟩ :=
    congrArg (Shift.mk _) fragments
  rw [parse_of_built (by rw [scan]) steps (by simp [Building.inside, closed'])]
  simp only [Building.inside, shift, isOther]
  simp [Setting.behind, followedBy]

/-- Two templates with a component that both are tied to. -/
theorem parse_append_tied
    : let resolver : Resolver :=
        { Resolver.empty with
          resolve := fun name => if name = "Card" then .component else .unknown }
      let first := ["<Card a=", "/><br>"]
      let second := ["<p ...", "><Card/>", "<Wide/></p>"]
      ∃ tree other,
        parse resolver {} first = .ok tree
        ∧ parse resolver {} second = .ok other
        ∧ parse resolver {} (first ++ second) = .ok (tree.followedBy 2 other)
        ∧ (tree.followedBy 2 other).slots
          = [.attribute 0 "a", .child none, .spread 2, .child (some 2)]
        ∧ (tree.followedBy 2 other).ties = ["Card", "Wide"] := by
  intro resolver first second
  have checked
      : (parse resolver {} first).isOk
        ∧ (parse resolver {} second).isOk
        ∧ (parse resolver {} (first ++ second)).map (fun tree => (tree.slots, tree.ties))
          = .ok ([.attribute 0 "a", .child none, .spread 2, .child (some 2)],
            ["Card", "Wide"]) := by
    decide +kernel
  obtain ⟨isFirst, isSecond, both⟩ := checked
  obtain ⟨tree, parsed⟩ := exists_of_isOk isFirst
  obtain ⟨other, parsed'⟩ := exists_of_isOk isSecond
  have appended := (parse_append (by simp [first]) (by simp [second]) parsed parsed').1
  rw [appended] at both
  obtain ⟨slots, ties⟩ := Prod.mk.inj (Except.ok.inj both)
  exact ⟨tree, other, parsed, parsed', appended, slots, ties⟩

end Tree

end TaggedMarkup
