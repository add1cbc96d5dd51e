import Mathlib.Data.List.Induction
import TaggedMarkup.Tree.Report
import TaggedMarkup.Proofs.Merging
import TaggedMarkup.Proofs.Reading.Slots

/-! What is noted of a node while a template is read. The notes grow with the attributes and the
children, one at a time, and those on spreads are completed at the end of the open tag. For every
node of the tree they say what its attributes, its children and its tag say.
-/

namespace TaggedMarkup

-----------------------------------------------------------------------------------------
-- Attributes
-----------------------------------------------------------------------------------------

namespace Attribute

/-- The name and the slot of an attribute with an interpolated value. -/
def dynamic? : Attribute → Option (String × Nat)
  | .named name (.slot slot) _ => some (name, slot)
  | _ => none

/-- The last attribute that gives a name an interpolated value has the slot. -/
def LastSlot (attributes : List Attribute) (name : String) (slot : Nat) : Prop :=
  ∃ entry location,
    attributes[entry]? = some (named name (.slot slot) location)
    ∧ ∀ (later other : Nat) (location : Location),
        entry < later → attributes[later]? ≠ some (named name (.slot other) location)

/-- The slots and the positions of the spreads among attributes, in order. -/
def spreadsOf (attributes : List Attribute) : List (Nat × Nat) :=
  attributes.zipIdx.filterMap fun (written, entry) =>
    match written with
    | .spread slot _ => some (slot, entry)
    | _ => none

theorem dynamic?_eq {written : Attribute} {name : String} {slot : Nat}
    : written.dynamic? = some (name, slot)
      ↔ ∃ location, written = .named name (.slot slot) location := by
  cases written with
  | named other value location =>
      cases value <;> simp [dynamic?]
  | spread | dynamicName => simp [dynamic?]

/-- An attribute at the end is at the position after all others. -/
theorem getElem?_snoc {attributes : List Attribute} {written other : Attribute} {entry : Nat}
    : (attributes ++ [written])[entry]? = some other
      ↔ attributes[entry]? = some other ∨ entry = attributes.length ∧ written = other := by
  rcases Nat.lt_trichotomy entry attributes.length with before | rfl | after
  · rw [List.getElem?_append_left before]
    constructor
    · exact .inl
    · rintro (found | ⟨rfl, -⟩)
      · exact found
      · omega
  · simp
  · have beyond : (attributes ++ [written])[entry]? = none :=
      List.getElem?_eq_none (by simpa using Nat.succ_le_of_lt after)
    have nowhere : attributes[entry]? = none := List.getElem?_eq_none (Nat.le_of_lt after)
    simp only [beyond, nowhere, reduceCtorEq, false_or, false_iff, not_and]
    omega

/-- An attribute at the end that gives the name no slot changes nothing of what is last. -/
theorem lastSlot_passed {attributes : List Attribute} {written : Attribute} {name : String}
    {slot : Nat} (differs : ∀ other location, written ≠ .named name (.slot other) location)
    : LastSlot (attributes ++ [written]) name slot ↔ LastSlot attributes name slot := by
  constructor
  · rintro ⟨entry, location, found, last⟩
    rcases getElem?_snoc.mp found with before | ⟨-, same⟩
    · refine ⟨entry, location, before, ?_⟩
      intro later other location' isLater isHere
      exact last later other location' isLater (getElem?_snoc.mpr (.inl isHere))
    · exact absurd same (differs slot location)
  · rintro ⟨entry, location, found, last⟩
    refine ⟨entry, location, getElem?_snoc.mpr (.inl found), ?_⟩
    intro later other location' isLater isHere
    rcases getElem?_snoc.mp isHere with before | ⟨-, same⟩
    · exact last later other location' isLater before
    · exact differs other location' same

/-- An attribute at the end is the last one that gives its name a slot. -/
theorem lastSlot_written (attributes : List Attribute) (name : String) (slot last : Nat)
    (location : Location)
    : LastSlot (attributes ++ [.named name (.slot last) location]) name slot ↔ last = slot := by
  have here
      : (attributes ++ [.named name (.slot last) location])[attributes.length]?
        = some (.named name (.slot last) location) :=
    getElem?_snoc.mpr (.inr ⟨rfl, rfl⟩)
  constructor
  · rintro ⟨entry, location', found, isLast⟩
    rcases getElem?_snoc.mp found with before | ⟨-, same⟩
    · have inside := (List.getElem?_eq_some_iff.mp before).1
      exact absurd here (isLast _ last location inside)
    · exact AttributeValue.slot.inj (named.inj same).2.1
  · rintro rfl
    refine ⟨attributes.length, location, here, ?_⟩
    intro later other location' isLater isHere
    rcases getElem?_snoc.mp isHere with before | ⟨rfl, -⟩
    · have inside := (List.getElem?_eq_some_iff.mp before).1
      omega
    · omega

/-- The slots noted by name are those of the last attributes, by induction on the attributes from
their end.
-/
theorem get?_dynamic (attributes : List Attribute) (name : String) (slot : Nat)
    : Fields.get? (Fields.ofEntries (attributes.filterMap dynamic?)) name = some slot
      ↔ LastSlot attributes name slot := by
  induction attributes using List.reverseRecOn with
  | nil => simp [Fields.ofEntries, Fields.insertAll, Fields.get?, LastSlot]
  | append_singleton attributes written ih =>
      cases isDynamic : written.dynamic? with
      | none =>
          have differs (other : Nat) (location : Location)
              : written ≠ .named name (.slot other) location := by
            rintro rfl
            cases isDynamic
          rw [lastSlot_passed differs, ← ih, List.filterMap_append]
          simp only [List.filterMap_cons, isDynamic, List.filterMap_nil, List.append_nil]
      | some pair =>
          obtain ⟨other, last⟩ := pair
          obtain ⟨location, rfl⟩ := dynamic?_eq.mp isDynamic
          have noted
              : Fields.ofEntries
                  ((attributes ++ [named other (.slot last) location]).filterMap dynamic?)
                = Fields.insert (Fields.ofEntries (attributes.filterMap dynamic?)) other last := by
            simp [Fields.ofEntries, Fields.insertAll, dynamic?]
          rw [noted, Fields.get?_insert]
          by_cases same : other = name
          · subst same
            rw [if_pos rfl, Option.some_inj, lastSlot_written]
          · rw [if_neg same, ih, lastSlot_passed]
            intro other' location' isHere
            exact same (named.inj isHere).1

theorem notes_spreads (attributes : List Attribute)
    : ((notes attributes).map fun note => (note.slot, note.entry)) = spreadsOf attributes := by
  simp only [notes, spreadsOf, List.map_filterMap]
  apply List.filterMap_congr
  intro pair _
  obtain ⟨written, entry⟩ := pair
  cases written <;> rfl

end Attribute

-----------------------------------------------------------------------------------------
-- Children
-----------------------------------------------------------------------------------------

namespace Child

/-- The slots among children with their positions. -/
def slotsAt (children : List Child) : List (Nat × Nat) :=
  children.zipIdx.filterMap fun (child, position) => child.slot?.map (position, ·)

theorem slotsAt_append (children : List Child) (child : Child)
    : slotsAt (children ++ [child])
      = slotsAt children ++ (child.slot?.map (children.length, ·)).toList := by
  simp only [slotsAt, List.zipIdx_append, List.filterMap_append, Nat.zero_add]
  cases isSlot : child.slot? <;> simp [isSlot]

/-- A child at the end that is no slot does not count. -/
theorem slotsAt_branch (children : List Child) (node : Node) (inside : List Child)
    : slotsAt (children ++ [.branch node inside]) = slotsAt children := by
  rw [slotsAt_append]
  exact List.append_nil _

theorem mem_slotsAt {children : List Child} {position slot : Nat}
    : (position, slot) ∈ slotsAt children ↔ children[position]? = some (.slot slot) := by
  have isSlot (child : Child) : child.slot? = some slot ↔ child = .slot slot := by
    cases child <;> simp [slot?]
  simp only [slotsAt, List.mem_filterMap, Prod.exists, List.mem_zipIdx_iff_getElem?,
    Option.map_eq_some_iff, Prod.mk.injEq]
  constructor
  · rintro ⟨child, entry, isHere, other, same, rfl, rfl⟩
    rw [isHere, (isSlot child).mp same]
  · intro isHere
    exact ⟨.slot slot, position, isHere, slot, rfl, rfl, rfl⟩

/-- Every position is noted once. -/
theorem slotsAt_sorted (children : List Child)
    : (slotsAt children).Pairwise fun first second => first.1 < second.1 := by
  have places : children.zipIdx.Pairwise fun first second => first.2 < second.2 := by
    apply List.pairwise_map.mp
    rw [List.zipIdx_map_snd]
    exact List.pairwise_lt_range'
  refine List.pairwise_filterMap.mpr (places.imp ?_)
  intro first second before noted isNoted other isOther
  obtain ⟨_, -, rfl⟩ := Option.map_eq_some_iff.mp isNoted
  obtain ⟨_, -, rfl⟩ := Option.map_eq_some_iff.mp isOther
  exact before

end Child

-----------------------------------------------------------------------------------------
-- The invariant
-----------------------------------------------------------------------------------------

/-- The notes on slots account for the attributes and the children read so far. -/
structure Node.Tallied (node : Node) (children : List Child) : Prop where
  dynamicAttributes
    : node.dynamicAttributes = Fields.ofEntries (node.attributes.filterMap Attribute.dynamic?)
  dynamicChildren : node.dynamicChildren = Child.slotsAt children
  childless : node.isSelfClosing = true → children = []

/-- Every node in the children is tallied. -/
def Child.AllTallied (children : List Child) : Prop :=
  ∀ branch ∈ Child.branchesOf children, branch.node.Tallied branch.children

theorem Child.AllTallied.append {children others : List Child} (tallied : AllTallied children)
    (tallied' : AllTallied others)
    : AllTallied (children ++ others) := by
  intro branch member
  rw [Tree.branchesOf_append] at member
  rcases List.mem_append.mp member with early | late
  · exact tallied branch early
  · exact tallied' branch late

theorem Child.AllTallied.left {children others : List Child}
    (tallied : AllTallied (children ++ others))
    : AllTallied children :=
  fun branch member => tallied branch (by simp [Tree.branchesOf_append, member])

theorem Child.AllTallied.branch {node : Node} {children : List Child}
    (tallied : node.Tallied children) (inside : AllTallied children)
    : AllTallied [.branch node children] := by
  intro branch member
  simp only [branchesOf, branches, List.append_nil, List.mem_cons] at member
  rcases member with rfl | member
  · exact tallied
  · exact inside branch member

namespace Tree

variable {resolver : Resolver} {options : ReadOptions}

/-- An open element that is not closed by its own tag. -/
structure FrameTallied (frame : Frame) : Prop where
  node : frame.node.Tallied frame.children
  notSelfClosing : frame.node.isSelfClosing = false
  inside : Child.AllTallied frame.children

/-- The children of an open element change, and with them what is noted of them. -/
theorem FrameTallied.change {frame : Frame} (tallied : FrameTallied frame)
    {children : List Child} {noted : List (Nat × Nat)} (inside : Child.AllTallied children)
    (isNoted : noted = Child.slotsAt children)
    : FrameTallied ⟨{ frame.node with dynamicChildren := noted }, children⟩ where
  node := {
    dynamicAttributes := tallied.node.dynamicAttributes
    dynamicChildren := isNoted
    childless := by
      intro selfClosing
      cases tallied.notSelfClosing.symm.trans selfClosing
  }
  notSelfClosing := tallied.notSelfClosing
  inside := inside

/-- The notes on slots account for all that has been read. -/
structure BuildingTallied (building : Building) : Prop where
  roots : Child.AllTallied building.roots
  frames : ∀ frame ∈ building.frames, FrameTallied frame
  current
    : ∀ node,
        building.current = some node → node.Tallied [] ∧ node.isSelfClosing = false

theorem BuildingTallied.start (slotCount : Nat) : BuildingTallied (.start slotCount) where
  roots := by simp [Building.start, Child.AllTallied, Child.branchesOf]
  frames := by simp [Building.start]
  current := by simp [Building.start]

namespace BuildingTallied

variable {building : Building}

/-- A child that is no slot is added. -/
theorem addChild (tallied : BuildingTallied building) {child : Child}
    (inside : Child.AllTallied [child]) (notSlot : child.slot? = none)
    : BuildingTallied (building.addChild child) := by
  obtain ⟨frames, roots, current, afterVoid, nextId, slots, ties⟩ := building
  cases frames with
  | nil => exact ⟨tallied.roots.append inside, by simp [Building.addChild], tallied.current⟩
  | cons frame outer =>
      refine ⟨tallied.roots, ?_, tallied.current⟩
      intro other member
      rcases List.mem_cons.mp member with rfl | outside
      · have inner := tallied.frames frame (by simp)
        refine inner.change (inner.inside.append inside) ?_
        rw [Child.slotsAt_append, notSlot]
        simpa using inner.node.dynamicChildren
      · exact tallied.frames other (by simp [outside])

/-- What is neither a node nor a child does not matter. -/
theorem same (tallied : BuildingTallied building) (other : Building)
    (frames : other.frames = building.frames) (roots : other.roots = building.roots)
    (current : other.current = building.current)
    : BuildingTallied other :=
  ⟨roots ▸ tallied.roots, frames ▸ tallied.frames, current ▸ tallied.current⟩

theorem addText (tallied : BuildingTallied building) (raw : String)
    : BuildingTallied (addText options building raw) := by
  simp only [Tree.addText]
  split
  next => exact tallied
  next text _ =>
      split
      · exact tallied
      · exact (tallied.addChild (by simp [Child.AllTallied, Child.branchesOf, Child.branches])
          rfl).same _ rfl rfl rfl

/-- A slot is added to the children, and noted at the element around it. -/
theorem addSlot (tallied : BuildingTallied building) (slot : Nat)
    : BuildingTallied (addSlot building slot) := by
  have leaf : Child.AllTallied [.slot slot] := by
    simp [Child.AllTallied, Child.branchesOf, Child.branches]
  obtain ⟨frames, roots, current, afterVoid, nextId, slots, ties⟩ := building
  cases frames with
  | nil => exact ⟨tallied.roots.append leaf, by simp [Tree.addSlot, Building.addChild,
      Building.setSlot], tallied.current⟩
  | cons frame outer =>
      refine ⟨tallied.roots, ?_, tallied.current⟩
      intro other member
      rcases List.mem_cons.mp member with rfl | outside
      · have inner := tallied.frames frame (by simp)
        refine inner.change (inner.inside.append leaf) ?_
        rw [Child.slotsAt_append, ← inner.node.dynamicChildren]
        rfl
      · exact tallied.frames other (by simp [outside])

theorem openTag (tallied : BuildingTallied building) (name : String) (location : Location)
    : BuildingTallied (openTag resolver options building name location) := by
  have tied
      : (building.tie name).frames = building.frames
        ∧ (building.tie name).roots = building.roots := by
    simp only [Building.tie]
    split <;> exact ⟨rfl, rfl⟩
  simp only [Tree.openTag]
  refine ⟨?_, ?_, ?_⟩
  · split
    · exact tied.2 ▸ tallied.roots
    · exact tallied.roots
  · split
    · exact tied.1 ▸ tallied.frames
    · exact tallied.frames
  · intro node same
    obtain rfl := Option.some.inj same
    exact ⟨⟨rfl, rfl, fun selfClosing => absurd selfClosing Bool.false_ne_true⟩, rfl⟩

/-- An attribute is read in an open tag. -/
theorem changeCurrent (tallied : BuildingTallied building) (written : Attribute)
    {change : Node → Node}
    (attributes : ∀ node, (change node).attributes = node.attributes ++ [written])
    (noted
      : ∀ node,
          (change node).dynamicAttributes
          = Fields.insertAll node.dynamicAttributes written.dynamic?.toList)
    (rest
      : ∀ node,
          (change node).dynamicChildren = node.dynamicChildren
          ∧ (change node).isSelfClosing = node.isSelfClosing)
    : BuildingTallied (changeCurrent building change) := by
  refine ⟨tallied.roots, tallied.frames, ?_⟩
  intro node same
  obtain ⟨before, found, rfl⟩ := Option.map_eq_some_iff.mp same
  obtain ⟨earlier, notSelfClosing⟩ := tallied.current before found
  obtain ⟨children, selfClosing⟩ := rest before
  refine ⟨⟨?_, ?_, fun _ => rfl⟩, selfClosing.trans notSelfClosing⟩
  swap
  · exact children.trans earlier.dynamicChildren
  rw [noted, attributes, earlier.dynamicAttributes, List.filterMap_append, Fields.ofEntries,
    Fields.ofEntries]
  simp only [Fields.insertAll, List.foldl_append]
  cases isDynamic : written.dynamic? <;> simp [isDynamic]

theorem withNamed (tallied : BuildingTallied building) (name : String) (value : AttributeValue)
    (location : Location)
    : BuildingTallied
        (Tree.changeCurrent building fun node => withNamed node name value location) := by
  refine tallied.changeCurrent (.named name value location) (fun _ => rfl) ?_
    fun _ => ⟨rfl, rfl⟩
  intro node
  cases value <;> rfl

theorem noteSlot (tallied : BuildingTallied building) (slot : Nat) (kind : Nat → SlotKind)
    : BuildingTallied (noteSlot building slot kind) := by
  simp only [Tree.noteSlot]
  split
  · exact tallied
  · exact tallied.same _ rfl rfl rfl

/-- An open tag ends, and its node is complete or open. -/
theorem openEnd (tallied : BuildingTallied building) (selfClosing : Bool)
    : BuildingTallied (openEnd building selfClosing) := by
  simp only [Tree.openEnd]
  split
  next => exact tallied
  next node isCurrent =>
      obtain ⟨begun, notSelfClosing⟩ := tallied.current node isCurrent
      have rest : BuildingTallied { building with current := none } :=
        ⟨tallied.roots, tallied.frames, by simp⟩
      have nothing : Child.AllTallied [] := by simp [Child.AllTallied, Child.branchesOf]
      have ended (isSelfClosing isClosed : Bool)
          : Node.Tallied { notedAfter node with isSelfClosing, isClosed } [] :=
        ⟨begun.dynamicAttributes, begun.dynamicChildren, fun _ => rfl⟩
      split
      · exact rest.addChild (.branch (ended true true) nothing) rfl
      split
      · have added := rest.addChild (.branch (ended node.isSelfClosing true) nothing) rfl
        exact added.same _ rfl rfl rfl
      · refine ⟨tallied.roots, ?_, by simp⟩
        intro frame member
        rcases List.mem_cons.mp member with rfl | outside
        · exact ⟨ended node.isSelfClosing node.isClosed, notSelfClosing, nothing⟩
        · exact tallied.frames frame outside

/-- A closing tag that is noted on the last child keeps the positions of the slots. -/
theorem closeLast {name : String} {location : Location} {children closed : List Child}
    (inside : Child.AllTallied children)
    (closes : closeLast? name location children = some closed)
    : Child.AllTallied closed ∧ Child.slotsAt closed = Child.slotsAt children := by
  obtain ⟨before, node, within, rfl, rfl, -⟩ := closeLast?_eq closes
  have last := inside ⟨node, within⟩
    (by simp [branchesOf_append, Child.branchesOf, Child.branches])
  have deeper : Child.AllTallied within := fun branch member =>
    inside branch (by simp [branchesOf_append, Child.branchesOf, Child.branches, member])
  have noted : Node.Tallied { node with closed := some location } within :=
    ⟨last.dynamicAttributes, last.dynamicChildren, last.childless⟩
  refine ⟨inside.left.append (.branch noted deeper), ?_⟩
  rw [Child.slotsAt_branch, Child.slotsAt_branch]

theorem closeVoid (tallied : BuildingTallied building) {name : String} {location : Location}
    {closed : Building} (closing : VoidClosed name location building closed)
    : BuildingTallied closed := by
  cases closing with
  | atRoot _ _ found =>
      exact ⟨(closeLast tallied.roots found).1, tallied.frames, tallied.current⟩
  | @inside frame outer _ _ frames found =>
      have inner := tallied.frames frame (by simp [frames])
      obtain ⟨inside, same⟩ := closeLast inner.inside found
      refine ⟨tallied.roots, ?_, tallied.current⟩
      intro other member
      rcases List.mem_cons.mp member with rfl | outside
      · exact inner.change inside (inner.node.dynamicChildren.trans same.symm)
      · exact tallied.frames other (by simp [frames, outside])

theorem closeTag (tallied : BuildingTallied building) {name : String} {location : Location}
    {closed : Building} (closing : closeTag resolver building name location = .ok closed)
    : BuildingTallied closed := by
  cases TagClosed.of_closeTag closing with
  | @frame frame outer frames =>
      have inner := tallied.frames frame (by simp [frames])
      have rest : BuildingTallied { building with frames := outer } :=
        ⟨tallied.roots, fun other outside => tallied.frames other (by simp [frames, outside]),
          tallied.current⟩
      have closed
          : Node.Tallied { frame.node with closed := some location, isClosed := true }
              frame.children :=
        ⟨inner.node.dynamicAttributes, inner.node.dynamicChildren, inner.node.childless⟩
      exact (rest.addChild (.branch closed inner.inside) rfl).same _ rfl rfl rfl
  | void closing => exact tallied.closeVoid closing

/-- One token keeps the notes in step with what has been read. -/
theorem step (tallied : BuildingTallied building) {token : Token} {next : Building}
    (stepped : step resolver options building token = .ok next)
    : BuildingTallied next := by
  cases token with
  | closeTag name location => exact tallied.closeTag stepped
  | text raw location =>
      obtain rfl := Except.ok.inj stepped
      exact tallied.addText raw
  | openTag name location =>
      obtain rfl := Except.ok.inj stepped
      exact tallied.openTag name location
  | openEnd selfClosing =>
      obtain rfl := Except.ok.inj stepped
      exact tallied.openEnd selfClosing
  | «attribute» name value location =>
      cases value with
      | literal raw =>
          obtain rfl := Except.ok.inj stepped
          exact tallied.withNamed ..
      | bare =>
          obtain rfl := Except.ok.inj stepped
          exact tallied.withNamed ..
      | slot slot =>
          obtain rfl := Except.ok.inj stepped
          exact (tallied.noteSlot ..).withNamed ..
  | spread slot location =>
      obtain rfl := Except.ok.inj stepped
      exact (tallied.noteSlot ..).changeCurrent (.spread slot location)
        (fun _ => rfl) (fun _ => rfl) fun _ => ⟨rfl, rfl⟩
  | dynamicName slot location =>
      obtain rfl := Except.ok.inj stepped
      exact (tallied.noteSlot ..).changeCurrent (.dynamicName slot location)
        (fun _ => rfl) (fun _ => rfl) fun _ => ⟨rfl, rfl⟩
  | child slot location =>
      obtain rfl := Except.ok.inj stepped
      exact tallied.addSlot slot
  | ignored slot =>
      obtain rfl := Except.ok.inj stepped
      exact tallied

/-- Tokens keep the notes in step with what has been read, by induction on them. -/
theorem steps (tallied : BuildingTallied building) {tokens : List Token} {next : Building}
    (stepped : tokens.foldlM (Tree.step resolver options) building = .ok next)
    : BuildingTallied next := by
  induction tokens generalizing building with
  | nil =>
      obtain rfl := Except.ok.inj stepped
      exact tallied
  | cons token rest ih =>
      obtain ⟨reached, one, stepped⟩ := steps_cons stepped
      exact ih (tallied.step one) stepped

end BuildingTallied

-----------------------------------------------------------------------------------------
-- Trees
-----------------------------------------------------------------------------------------

variable {fragments : List String} {tree : Tree}

/-- The nodes of a template that can be read are tallied. -/
theorem parse_tallied (parsed : parse resolver options fragments = .ok tree)
    : Child.AllTallied tree.roots := by
  obtain ⟨-, building, built, -, rfl⟩ := parse_eq parsed
  exact ((BuildingTallied.start _).steps built).roots

/-- The notes on a node mirror its attributes, its children and its tag. -/
structure Mirrored (resolver : Resolver) (options : ReadOptions) (branch : Branch) : Prop where
  /-- The spreads are noted in order, with their slots and their positions. -/
  spreads
    : (branch.node.spreads.map fun note => (note.slot, note.entry))
      = Attribute.spreadsOf branch.node.attributes
  before
    : ∀ note ∈ branch.node.spreads,
        note.before = (branch.node.attributes.take note.entry).filterMap Attribute.name?
  after
    : ∀ note ∈ branch.node.spreads,
        note.after = (branch.node.attributes.drop (note.entry + 1)).filterMap Attribute.name?
  /-- Every name with an interpolated value is noted once. -/
  distinct : (Fields.names branch.node.dynamicAttributes).Nodup
  names
    : ∀ name,
        name ∈ Fields.names branch.node.dynamicAttributes
        ↔ ∃ slot location, .named name (.slot slot) location ∈ branch.node.attributes
  dynamicAttributes
    : ∀ name slot,
        Fields.get? branch.node.dynamicAttributes name = some slot
        ↔ Attribute.LastSlot branch.node.attributes name slot
  /-- Every position of a slot is noted once. -/
  positions : (branch.node.dynamicChildren.map Prod.fst).Nodup
  dynamicChildren
    : ∀ position slot,
        (position, slot) ∈ branch.node.dynamicChildren
        ↔ branch.children[position]? = some (.slot slot)
  tag : branch.node.tag = (resolveTag resolver branch.node.name).1
  component
    : "COMPONENT" ∈ flagNames branch.node ↔ ∃ name, branch.node.tag = .component name
  void
    : "VOID" ∈ flagNames branch.node
      ↔ ∃ name, branch.node.tag = .element name ∧ options.isVoid name = true
  custom
    : "CUSTOM_ELEMENT" ∈ flagNames branch.node
      ↔ ∃ name,
          branch.node.tag = .element name
          ∧ ('-' ∈ name.toList
            ∨ ∃ value location, .named "is" value location ∈ branch.node.attributes)
  childless
    : "VOID" ∈ flagNames branch.node ∨ "SELF_CLOSING" ∈ flagNames branch.node
      → branch.children = []

theorem mem_flagNames (node : Node)
    : ("COMPONENT" ∈ flagNames node ↔ node.isComponent = true)
      ∧ ("VOID" ∈ flagNames node ↔ node.isVoid = true)
      ∧ ("CUSTOM_ELEMENT" ∈ flagNames node ↔ node.isCustom = true)
      ∧ ("SELF_CLOSING" ∈ flagNames node ↔ node.isSelfClosing = true) := by
  simp [flagNames]

/-- An element has what is said of its name. -/
theorem elementName?_any (node : Node) (holds : String → Bool)
    : node.elementName?.any holds = true
      ↔ ∃ name, node.tag = .element name ∧ holds name = true := by
  simp only [Node.elementName?]
  cases node.tag <;> simp

theorem hasNamed_iff (node : Node) (name : String)
    : node.hasNamed name = true
      ↔ ∃ value location, .named name value location ∈ node.attributes := by
  simp only [Node.hasNamed, List.any_eq_true, beq_iff_eq]
  constructor
  · rintro ⟨written, member, same⟩
    cases written with
    | named other value location =>
        obtain rfl := Option.some.inj same
        exact ⟨value, location, member⟩
    | spread | dynamicName => cases same
  · rintro ⟨value, location, member⟩
    exact ⟨_, member, rfl⟩

/-- The names with interpolated values are those of the attributes that have one. -/
theorem names_dynamic (attributes : List Attribute) (name : String)
    : name ∈ Fields.names (Fields.ofEntries (attributes.filterMap Attribute.dynamic?))
      ↔ ∃ slot location, .named name (.slot slot) location ∈ attributes := by
  simp only [Fields.mem_names_ofEntries, List.mem_filterMap, Attribute.dynamic?_eq]
  constructor
  · rintro ⟨slot, written, member, location, rfl⟩
    exact ⟨slot, location, member⟩
  · rintro ⟨slot, location, member⟩
    exact ⟨slot, _, member, location, rfl⟩

/-- The notes on every node of a template that can be read mirror the node. -/
theorem parse_mirrored (parsed : parse resolver options fragments = .ok tree)
    : ∀ branch ∈ tree.branches, Mirrored resolver options branch := by
  intro branch member
  have read := (parse_read parsed).roots.branches branch member
  have tallied := parse_tallied parsed branch member
  have noted := read.opened.spreads
  obtain ⟨isComponent, isVoid, isCustom, isSelfClosing⟩ := mem_flagNames branch.node
  exact {
    spreads := noted ▸ Attribute.notes_spreads branch.node.attributes
    before := by
      intro note isNote
      obtain ⟨-, -, before, -⟩ := Node.mem_notes.mp (noted ▸ isNote)
      exact before
    after := by
      intro note isNote
      obtain ⟨-, -, -, after⟩ := Node.mem_notes.mp (noted ▸ isNote)
      exact after
    distinct := tallied.dynamicAttributes ▸ Fields.distinct_ofEntries _
    names := fun name => tallied.dynamicAttributes ▸ names_dynamic branch.node.attributes name
    dynamicAttributes := fun name slot =>
      tallied.dynamicAttributes ▸ Attribute.get?_dynamic branch.node.attributes name slot
    positions := by
      rw [tallied.dynamicChildren, List.Nodup, List.pairwise_map]
      exact (Child.slotsAt_sorted _).imp fun before => Nat.ne_of_lt before
    dynamicChildren := fun position slot => tallied.dynamicChildren ▸ Child.mem_slotsAt
    tag := read.opened.named.tag
    component := by
      rw [isComponent, Node.isComponent]
      cases branch.node.tag <;> simp
    void := by rw [isVoid, read.opened.named.isVoid, elementName?_any]
    custom := by
      rw [isCustom, read.opened.named.isCustom, elementName?_any]
      simp only [Bool.or_eq_true, Html.isCustomTag, List.contains_iff_mem, hasNamed_iff]
    childless := by
      rintro (void | selfClosing)
      · exact read.childless (isVoid.mp void)
      · exact tallied.childless (isSelfClosing.mp selfClosing)
  }

/-- Attributes around a spread are noted before and after it, and a name that is given two slots
is noted with the second one.
-/
theorem parse_mirrored_around_spread
    : let fragments := ["<my-a x=y b=", " ...", " b=", " ", " is=z>t", "<br/></my-a>"]
      ∃ tree,
        parse .empty {} fragments = .ok tree
        ∧ tree.branches.map (fun branch => (branch.node.spreads, branch.node.dynamicAttributes))
          = [([⟨1, 2, ["x", "b"], ["b", "is"]⟩], [("b", 2)]), ([], [])]
        ∧ ∀ branch ∈ tree.branches, Mirrored .empty {} branch := by
  intro fragments
  have checked
      : (parse .empty {} fragments).map (fun tree =>
            tree.branches.map fun branch => (branch.node.spreads, branch.node.dynamicAttributes))
          = .ok [([⟨1, 2, ["x", "b"], ["b", "is"]⟩], [("b", 2)]), ([], [])] := by
    decide +kernel
  obtain ⟨tree, parsed, noted⟩ := exists_of_map checked
  exact ⟨tree, parsed, noted, parse_mirrored parsed⟩

end Tree

end TaggedMarkup
