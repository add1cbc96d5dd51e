import TaggedMarkup.Proofs.Reading.Walk

/-! The tree of a template is nested as its tokens are. One token moves the walk over what has
been read by what it meets, so the walk over the whole tree meets all tokens in their order.
-/

namespace TaggedMarkup

-----------------------------------------------------------------------------------------
-- Complete children
-----------------------------------------------------------------------------------------

mutual

/-- Every node of the child is closed and knows the element around it. -/
def Child.Complete (around : Option Nat) : Child → Prop
  | .branch node children =>
      node.parent = around ∧ node.isClosed = true ∧ Child.AllComplete (some node.id) children
  | _ => True

/-- Every node of the children is closed and knows the element around it. -/
def Child.AllComplete (around : Option Nat) : List Child → Prop
  | [] => True
  | child :: rest => child.Complete around ∧ Child.AllComplete around rest

end

theorem Child.allComplete_append (around : Option Nat) (children others : List Child)
    : Child.AllComplete around (children ++ others)
      ↔ Child.AllComplete around children ∧ Child.AllComplete around others := by
  induction children with
  | nil => simp only [List.nil_append, Child.AllComplete, true_and]
  | cons child rest ih => simp only [List.cons_append, Child.AllComplete, ih, and_assoc]

theorem Child.allComplete_singleton (around : Option Nat) (child : Child)
    : Child.AllComplete around [child] ↔ child.Complete around := by
  simp only [Child.AllComplete, and_true]

namespace Tree

variable {resolver : Resolver} {options : ReadOptions} {slotCount : Nat}
  {tokens all : List Token}

-----------------------------------------------------------------------------------------
-- The invariant
-----------------------------------------------------------------------------------------

/-- Every open element knows the element around it, and what is in it is complete. The list has
the innermost element first.
-/
def FramesOpen : List Frame → Prop
  | [] => True
  | frame :: outer =>
      frame.node.parent = (outer.head?.map fun frame => frame.node.id)
      ∧ frame.node.isSelfClosing = false
      ∧ Child.AllComplete (some frame.node.id) frame.children
      ∧ FramesOpen outer

/-- The walk over what has been read has met the tokens so far, and the nodes know what is
around them.
-/
structure BuildingWalked (resolver : Resolver) (options : ReadOptions) (slotCount : Nat)
    (tokens : List Token) (building : Building)
    : Prop where
  accounts
    : Accounts resolver options slotCount tokens building.parent? building.walk building.slots
  roots : Child.AllComplete none building.roots
  frames : FramesOpen building.frames
  current
    : ∀ node,
        building.current = some node
        → node.parent = building.parent? ∧ node.isSelfClosing = false

theorem BuildingWalked.start (slotCount : Nat)
    : BuildingWalked resolver options slotCount [] (.start slotCount) where
  accounts := ⟨.start, rfl⟩
  roots := trivial
  frames := trivial
  current := by simp [Building.start]

namespace BuildingWalked

variable {building : Building} {token : Token}

/-- A token that no walk meets changes nothing. -/
theorem passed (walked : BuildingWalked resolver options slotCount tokens building)
    (passed : Passed options building.parent? token)
    : BuildingWalked resolver options slotCount (tokens ++ [token]) building :=
  { walked with accounts := walked.accounts.passed passed }

/-- A complete child that is added keeps what is open and what is complete. -/
theorem complete_addChild {child : Child} (roots : Child.AllComplete none building.roots)
    (frames : FramesOpen building.frames) (complete : child.Complete building.parent?)
    : Child.AllComplete none (building.addChild child).roots
      ∧ FramesOpen (building.addChild child).frames := by
  obtain ⟨frames', roots', current, afterVoid, nextId, slots, ties⟩ := building
  cases frames' with
  | nil =>
      refine ⟨?_, trivial⟩
      exact (Child.allComplete_append ..).mpr
        ⟨roots, (Child.allComplete_singleton ..).mpr complete⟩
  | cons frame outer =>
      obtain ⟨parent, notSelfClosing, inside, around⟩ := frames
      refine ⟨roots, parent, notSelfClosing, ?_, around⟩
      exact (Child.allComplete_append ..).mpr
        ⟨inside, (Child.allComplete_singleton ..).mpr complete⟩

/-- Only the slots and the nodes that have been read matter, and how the nodes are nested. -/
theorem same (walked : BuildingWalked resolver options slotCount tokens building)
    (other : Building) (frames : other.frames = building.frames)
    (roots : other.roots = building.roots) (current : other.current = building.current)
    (slots : other.slots = building.slots)
    : BuildingWalked resolver options slotCount tokens other where
  accounts := by
    simpa only [Building.walk, Building.walked, Building.parent?, frames, roots, current, slots]
      using walked.accounts
  roots := roots ▸ walked.roots
  frames := frames ▸ walked.frames
  current := by simpa only [Building.parent?, frames, current] using walked.current

/-- A complete child that has been met is added outside of an open tag. -/
theorem addChild {building : Building} {child : Child} (idle : building.current = none)
    (accounts
      : Accounts resolver options slotCount tokens building.parent?
          (building.walked ++ child.walk building.parent?) building.slots)
    (roots : Child.AllComplete none building.roots) (frames : FramesOpen building.frames)
    (complete : child.Complete building.parent?)
    : BuildingWalked resolver options slotCount tokens (building.addChild child) := by
  have idle' : (building.addChild child).current = none :=
    (building.addChild_apart child).1.trans idle
  obtain ⟨roots', frames'⟩ := complete_addChild roots frames complete
  refine ⟨?_, roots', frames', by simp [idle']⟩
  rw [Building.walk_idle idle', Building.walked_addChild, Building.parent?_addChild,
    Building.slots_addChild]
  exact accounts

/-- A text or a slot is added outside of an open tag. -/
theorem leaf (walked : BuildingWalked resolver options slotCount tokens building)
    (idle : building.current = none) (child : Child) {event : Event}
    (isLeaf : child.walk building.parent? = [⟨event, building.parent?⟩])
    (complete : child.Complete building.parent?)
    (meets : Meets resolver options building.parent? event token)
    : BuildingWalked resolver options slotCount (tokens ++ [token])
        (({ building with slots := Visit.note building.slots ⟨event, building.parent?⟩ }
          : Building).addChild child) := by
  have accounts := walked.accounts.met ⟨event, building.parent?⟩ meets
  rw [Building.walk_idle idle, ← isLeaf] at accounts
  exact addChild idle accounts walked.roots walked.frames complete

theorem addText_eq (options : ReadOptions) (building : Building) (raw : String)
    : addText options building raw
      = match survivor? options building.parent? raw with
        | none => building
        | some text => { building.addChild (.text text) with afterVoid := false } := by
  have outermost : building.frames.isEmpty = true ↔ building.parent? = none := by
    cases frames : building.frames <;> simp [Building.parent?, frames]
  simp only [addText, survivor?]
  cases cleaned? options raw with
  | none => rfl
  | some text =>
      simp only [Option.bind_some, Bool.and_eq_true, outermost]
      split <;> rfl

theorem addText (walked : BuildingWalked resolver options slotCount tokens building)
    (idle : building.current = none) (raw : String) (location : Location)
    : BuildingWalked resolver options slotCount (tokens ++ [.text raw location])
        (addText options building raw) := by
  rw [addText_eq]
  split
  next nothing => exact walked.passed (.text location nothing)
  next text survives =>
      exact (walked.leaf idle _ (by simp only [Child.walk]) (by simp only [Child.Complete])
        (.text location survives)).same _ rfl rfl rfl rfl

/-- A slot is added, and the element around it notes the slot. -/
theorem addSlot (walked : BuildingWalked resolver options slotCount tokens building)
    (idle : building.current = none) (slot : Nat) (location : Location)
    : BuildingWalked resolver options slotCount (tokens ++ [.child slot location])
        (addSlot building slot) := by
  obtain ⟨frames, roots, current, afterVoid, nextId, slots, ties⟩ := building
  have added := walked.leaf idle (.slot slot) (by simp only [Child.walk])
    (by simp only [Child.Complete]) (.slot slot location)
  cases frames with
  | nil => exact added.same _ rfl rfl rfl rfl
  | cons frame outer => exact ⟨added.accounts, added.roots, added.frames, added.current⟩

/-- An open tag begins. -/
theorem openTag (walked : BuildingWalked resolver options slotCount tokens building)
    (idle : building.current = none) (name : String) (location : Location)
    : BuildingWalked resolver options slotCount (tokens ++ [.openTag name location])
        (openTag resolver options building name location) := by
  have tied (name : String)
      : (building.tie name).frames = building.frames
        ∧ (building.tie name).roots = building.roots
        ∧ (building.tie name).slots = building.slots := by
    simp only [Building.tie]
    split <;> exact ⟨rfl, rfl, rfl⟩
  generalize reached : Tree.openTag resolver options building name location = next
  have frames : next.frames = building.frames := by
    rw [← reached]
    simp only [Tree.openTag]
    split
    · exact (tied name).1
    · rfl
  have roots : next.roots = building.roots := by
    rw [← reached]
    simp only [Tree.openTag]
    split
    · exact (tied name).2.1
    · rfl
  have slots : next.slots = building.slots := by
    rw [← reached]
    simp only [Tree.openTag]
    split
    · exact (tied name).2.2
    · rfl
  have parent : next.parent? = building.parent? := by simp only [Building.parent?, frames]
  obtain ⟨node, isCurrent, isNode⟩
      : ∃ node,
          next.current = some node
          ∧ node.name = name
          ∧ node.opened = location
          ∧ node.attributes = []
          ∧ node.parent = building.parent?
          ∧ node.isSelfClosing = false := by
    rw [← reached]
    exact ⟨_, rfl, rfl, rfl, rfl, rfl, rfl⟩
  obtain ⟨rfl, rfl, bare, isParent, notSelfClosing⟩ := isNode
  refine ⟨?_, roots ▸ walked.roots, frames ▸ walked.frames, ?_⟩
  · have accounts := walked.accounts.met_slotless
      ⟨.openTag node.id node.name node.opened, building.parent?⟩ rfl
      (.openTag node.id node.name node.opened)
    rw [Building.walk_idle idle] at accounts
    rw [Building.walk_reading isCurrent, parent]
    simpa only [Building.walked, frames, roots, slots, Node.beginning, bare, List.map_nil]
      using accounts
  · intro other same
    obtain rfl := Option.some.inj (isCurrent.symm.trans same)
    exact ⟨isParent.trans parent.symm, notSelfClosing⟩

/-- A change of a node adds an attribute and leaves the rest of the open tag as it was. -/
structure Adds (written : Attribute) (change : Node → Node) : Prop where
  attributes : ∀ node, (change node).attributes = node.attributes ++ [written]
  id : ∀ node, (change node).id = node.id
  name : ∀ node, (change node).name = node.name
  opened : ∀ node, (change node).opened = node.opened
  parent : ∀ node, (change node).parent = node.parent
  isSelfClosing : ∀ node, (change node).isSelfClosing = node.isSelfClosing

theorem adds_withNamed (name : String) (value : AttributeValue) (location : Location)
    : Adds (.named name value location) fun node => withNamed node name value location := by
  constructor <;> exact fun _ => rfl

theorem adds_withSpread (slot : Nat) (location : Location)
    : Adds (.spread slot location) fun node => withSpread node slot location := by
  constructor <;> exact fun _ => rfl

theorem adds_withDynamicName (slot : Nat) (location : Location)
    : Adds (.dynamicName slot location) fun node => withDynamicName node slot location := by
  constructor <;> exact fun _ => rfl

/-- An attribute is read in an open tag. -/
theorem addAttribute (walked : BuildingWalked resolver options slotCount tokens building)
    {change : Node → Node} {written : Attribute} {node : Node} (adds : Adds written change)
    (reading : building.current = some node)
    (meets : Meets resolver options building.parent? (.attribute node.id written) token)
    : BuildingWalked resolver options slotCount (tokens ++ [token])
        (changeCurrent
          { building with
            slots := Visit.note building.slots ⟨.attribute node.id written, building.parent?⟩ }
          change) := by
  have changed : building.current.map change = some (change node) := by
    simp only [reading, Option.map_some]
  refine ⟨?_, walked.roots, walked.frames, ?_⟩
  · have accounts := walked.accounts.met ⟨.attribute node.id written, building.parent?⟩ meets
    rw [Building.walk_reading reading] at accounts
    simp only [changeCurrent]
    rw [Building.walk_reading changed]
    simpa [Building.walked, Building.parent?, Node.beginning, adds.attributes,
      adds.id, adds.name, adds.opened] using accounts
  · intro other same
    obtain rfl := Option.some.inj (changed.symm.trans same)
    obtain ⟨isParent, notSelfClosing⟩ := walked.current node reading
    exact ⟨(adds.parent node).trans isParent, (adds.isSelfClosing node).trans notSelfClosing⟩

/-- An attribute is read in an open tag, which notes its slot. -/
theorem addInterpolated (walked : BuildingWalked resolver options slotCount tokens building)
    {change : Node → Node} {written : Attribute} {node : Node} (adds : Adds written change)
    (reading : building.current = some node) {slot : Nat} {kind : Nat → SlotKind}
    (use
      : Visit.use? ⟨.attribute node.id written, building.parent?⟩ = some (slot, kind node.id))
    (meets : Meets resolver options building.parent? (.attribute node.id written) token)
    : BuildingWalked resolver options slotCount (tokens ++ [token])
        (changeCurrent (noteSlot building slot kind) change) := by
  have added := walked.addAttribute adds reading meets
  simp only [Visit.note, use] at added
  simpa only [noteSlot, reading, Building.setSlot] using added

/-- An open tag ends, and its node is complete because it has no children. -/
theorem addEmpty (walked : BuildingWalked resolver options slotCount tokens building)
    {node : Node} (reading : building.current = some node) (complete : Node)
    (beginning : ∀ around, complete.beginning around = node.beginning around)
    (id : complete.id = node.id) (parent : complete.parent = node.parent)
    (closed : complete.closed = none) (isClosed : complete.isClosed = true)
    (childless : complete.isSelfClosing = true ∨ complete.isVoid = true)
    : BuildingWalked resolver options slotCount (tokens ++ [.openEnd complete.isSelfClosing])
        (({ building with current := none } : Building).addChild (.branch complete [])) := by
  have inside (around : Option Nat) : complete.inside around = around :=
    if_pos (by simpa using childless)
  have met
      : Child.walk building.parent? (.branch complete [])
        = node.beginning building.parent?
          ++ [⟨.openEnd node.id complete.isSelfClosing, building.parent?⟩] := by
    simp [Child.walk, Child.walkOf, Node.opening, beginning, inside, id, closed]
  have accounts := walked.accounts.met_slotless
    ⟨.openEnd node.id complete.isSelfClosing, building.parent?⟩ rfl (.openEnd ..)
  rw [Building.walk_reading reading, List.append_assoc, ← met] at accounts
  refine addChild rfl accounts walked.roots walked.frames ⟨?_, isClosed, trivial⟩
  exact parent.trans (walked.current node reading).1

/-- An open tag ends, and its node is complete or open. -/
theorem openEnd (walked : BuildingWalked resolver options slotCount tokens building)
    (read : BuildingRead resolver options all building) {node : Node}
    (reading : building.current = some node) (selfClosing : Bool)
    : BuildingWalked resolver options slotCount (tokens ++ [.openEnd selfClosing])
        (openEnd building selfClosing) := by
  have begun := read.current node reading
  obtain ⟨isParent, notSelfClosing⟩ := walked.current node reading
  simp only [Tree.openEnd, reading]
  cases selfClosing with
  | true =>
      exact walked.addEmpty reading
        { notedAfter node with isSelfClosing := true, isClosed := true }
        (fun _ => rfl) rfl rfl begun.closed rfl (.inl rfl)
  | false =>
      simp only [Bool.false_eq_true, if_false]
      split
      next isVoid =>
          have added := walked.addEmpty reading { notedAfter node with isClosed := true }
            (fun _ => rfl) rfl rfl begun.closed rfl (.inr isVoid)
          rw [show ({ notedAfter node with isClosed := true } : Node).isSelfClosing = false from
            notSelfClosing] at added
          exact added.same _ rfl rfl rfl rfl
      next notVoid =>
          have inside : (notedAfter node).inside building.parent? = some node.id :=
            if_neg (by simpa [notedAfter, notSelfClosing] using notVoid)
          have met
              : (notedAfter node).opening building.parent?
                = node.beginning building.parent? ++ [⟨.openEnd node.id false, some node.id⟩] := by
            simp only [Node.opening, inside]
            rw [show (notedAfter node).isSelfClosing = false from notSelfClosing]
            rfl
          refine ⟨?_, walked.roots, ⟨isParent, notSelfClosing, trivial, walked.frames⟩, by simp⟩
          have accounts := walked.accounts.met_slotless ⟨.openEnd node.id false, some node.id⟩
            rfl (.openEnd ..)
          rw [Building.walk_reading reading, List.append_assoc, ← met] at accounts
          rw [Building.walk_idle rfl]
          change Accounts resolver options slotCount _ (some node.id) _ building.slots
          simpa only [Building.walked, Building.parent?, walkFrames, Child.walkOf,
            List.append_nil, List.append_assoc] using accounts

/-- A closing tag of the last child is met after the child. -/
theorem walk_closeLast {around : Option Nat} {name : String} {location : Location}
    (children : List Child) {closed : List Child}
    (last
      : ∃ before node,
          children = before ++ [.branch node []] ∧ node.isVoid = true ∧ node.closed = none)
    (closes : closeLast? name location children = some closed)
    (complete : Child.AllComplete around children)
    : Child.AllComplete around closed
      ∧ ∃ node,
          Child.walkOf around closed
            = Child.walkOf around children ++ [⟨.closeTag node name location, around⟩] := by
  obtain ⟨before, node, rfl, -, notClosed⟩ := last
  obtain ⟨before', node', inside, same, rfl, rfl⟩ := closeLast?_eq closes
  obtain ⟨rfl, isLast⟩ := List.append_inj' same rfl
  obtain ⟨rfl, rfl⟩ := Child.branch.inj (List.singleton_inj.mp isLast)
  obtain ⟨early, late⟩ := (Child.allComplete_append ..).mp complete
  refine ⟨(Child.allComplete_append ..).mpr ⟨early, late⟩, node.id, ?_⟩
  simp [Child.walkOf_append, Child.walk, Child.walkOf, notClosed, Node.opening, Node.beginning,
    Node.inside]

/-- A closing tag of a void element is read. -/
theorem closeVoid (walked : BuildingWalked resolver options slotCount tokens building)
    (read : BuildingRead resolver options all building) (idle : building.current = none)
    {name : String} {location : Location} {closed : Building}
    (closing : VoidClosed name location building closed)
    : BuildingWalked resolver options slotCount (tokens ++ [.closeTag name location]) closed := by
  obtain ⟨frames, roots, current, afterVoid, nextId, slots, ties⟩ := building
  obtain rfl : current = none := idle
  cases closing with
  | atRoot after isRoot found =>
      obtain rfl : frames = [] := isRoot
      obtain ⟨complete, node, met⟩ :=
        walk_closeLast roots (read.lastVoid after) found walked.roots
      refine ⟨?_, complete, trivial, by simp⟩
      have accounts := walked.accounts.met_slotless ⟨.closeTag node name location, none⟩
        rfl (.closeTag location (.inl rfl))
      rw [Building.walk_idle rfl] at accounts ⊢
      simpa only [Building.walked, Building.parent?, List.head?_nil, Option.map_none,
        walkFrames, List.append_nil, met] using accounts
  | @inside frame outer _ after isInside found =>
      obtain rfl : frames = frame :: outer := isInside
      obtain ⟨parent, notSelfClosing, inside, around⟩ := walked.frames
      obtain ⟨complete, node, met⟩ :=
        walk_closeLast frame.children (read.lastVoid after) found inside
      refine ⟨?_, walked.roots, ⟨parent, notSelfClosing, complete, around⟩, by simp⟩
      have accounts := walked.accounts.met_slotless
        ⟨.closeTag node name location, some frame.node.id⟩ rfl (.closeTag location (.inl rfl))
      rw [Building.walk_idle rfl] at accounts ⊢
      simpa only [Building.walked, Building.parent?, List.head?_cons, Option.map_some,
        walkFrames, met, List.append_assoc] using accounts

/-- A name that closes a node is its own or one of the same component. -/
theorem closes_named {ties : List String} {node : Node}
    (named : NodeNamed resolver options ties node) {name : String}
    (isClosing : closes resolver node name = true)
    : node.name = name
      ∨ resolver.resolve node.name = .component
        ∧ resolver.sameComponent node.name name = true := by
  simp only [closes, Bool.or_eq_true, beq_iff_eq, Bool.and_eq_true] at isClosing
  rcases isClosing with same | ⟨isComponent, same⟩
  · exact .inl same
  · refine .inr ⟨?_, same⟩
    simp only [Node.isComponent, named.tag, resolveTag] at isComponent
    cases meaning : resolver.resolve node.name with
    | component => rfl
    | «alias» tag => simp [meaning] at isComponent
    | unknown =>
        by_cases isFragment : node.name = Scanner.fragmentName
        · rw [isFragment] at meaning
          simp [isFragment, meaning] at isComponent
        · simp [isFragment, meaning] at isComponent

/-- The innermost open element is closed. -/
theorem closeFrame (walked : BuildingWalked resolver options slotCount tokens building)
    (read : BuildingRead resolver options all building) (idle : building.current = none)
    {frame : Frame} {outer : List Frame} (frames : building.frames = frame :: outer)
    {name : String} (location : Location) (isClosing : closes resolver frame.node name = true)
    : BuildingWalked resolver options slotCount (tokens ++ [.closeTag name location])
        (({ building with frames := outer } : Building).addChild
          (.branch { frame.node with closed := some location, isClosed := true }
            frame.children)) := by
  obtain ⟨frames', roots, current, afterVoid, nextId, slots, ties⟩ := building
  obtain rfl : frames' = frame :: outer := frames
  obtain rfl : current = none := idle
  obtain ⟨parent, -, inside, around⟩ := walked.frames
  have named := (read.stack.frames frame (by simp)).opened.named
  have accounts := walked.accounts.met_slotless
    ⟨.closeTag frame.node.id frame.node.name location, outer.head?.map fun frame => frame.node.id⟩
    rfl (.closeTag location (closes_named named isClosing))
  rw [Building.walk_idle rfl] at accounts
  refine addChild rfl ?_ walked.roots around ⟨parent, rfl, inside⟩
  change Accounts resolver options slotCount _ (outer.head?.map fun frame => frame.node.id)
    (Child.walkOf none roots ++ walkFrames outer
      ++ (frame.node.opening (outer.head?.map fun frame => frame.node.id)
        ++ Child.walkOf (some frame.node.id) frame.children
        ++ [⟨.closeTag frame.node.id frame.node.name location,
          outer.head?.map fun frame => frame.node.id⟩])) _
  simpa only [Building.walked, walkFrames, List.append_assoc] using accounts

theorem closeTag (walked : BuildingWalked resolver options slotCount tokens building)
    (read : BuildingRead resolver options all building) (idle : building.current = none)
    {name : String} {location : Location} {closed : Building}
    (closing : closeTag resolver building name location = .ok closed)
    : BuildingWalked resolver options slotCount (tokens ++ [.closeTag name location]) closed := by
  cases TagClosed.of_closeTag closing with
  | frame frames isClosing =>
      exact (walked.closeFrame read idle frames location isClosing).same _ rfl rfl rfl rfl
  | void closing => exact walked.closeVoid read idle closing

-----------------------------------------------------------------------------------------
-- Tokens
-----------------------------------------------------------------------------------------

/-- One token is met by the walk, or passed. -/
theorem step (walked : BuildingWalked resolver options slotCount tokens building)
    (read : BuildingRead resolver options all building) {token : Token} {next : Building}
    {inTag : Bool} (order : token.after? building.current.isSome = some inTag)
    (stepped : step resolver options building token = .ok next)
    : BuildingWalked resolver options slotCount (tokens ++ [token]) next := by
  have outside (isOutside : (if building.current.isSome then none else some false) = some inTag)
      : building.current = none := by
    cases isCurrent : building.current <;> simp_all
  have inside (isInside : (if building.current.isSome then some true else none) = some inTag)
      : ∃ node, building.current = some node := by
    cases isCurrent : building.current <;> simp_all
  cases token with
  | text raw location =>
      obtain rfl := Except.ok.inj stepped
      exact walked.addText (outside order) raw location
  | openTag name location =>
      obtain rfl := Except.ok.inj stepped
      have idle : building.current = none := by
        cases isCurrent : building.current with
        | none => rfl
        | some node => simp [isCurrent, Token.after?] at order
      exact walked.openTag idle name location
  | openEnd selfClosing =>
      obtain rfl := Except.ok.inj stepped
      obtain ⟨node, reading⟩ : ∃ node, building.current = some node := by
        cases isCurrent : building.current with
        | none => simp [isCurrent, Token.after?] at order
        | some node => exact ⟨node, rfl⟩
      exact walked.openEnd read reading selfClosing
  | closeTag name location => exact walked.closeTag read (outside order) stepped
  | «attribute» name value location =>
      obtain ⟨node, reading⟩ := inside order
      cases value with
      | literal raw =>
          obtain rfl := Except.ok.inj stepped
          exact walked.addAttribute (adds_withNamed ..) reading (.literal ..)
      | bare =>
          obtain rfl := Except.ok.inj stepped
          exact walked.addAttribute (adds_withNamed ..) reading (.bare ..)
      | slot slot =>
          obtain rfl := Except.ok.inj stepped
          exact walked.addInterpolated (adds_withNamed ..) reading rfl (.interpolated ..)
  | spread slot location =>
      obtain ⟨node, reading⟩ := inside order
      obtain rfl := Except.ok.inj stepped
      exact walked.addInterpolated (adds_withSpread ..) reading rfl (.spread ..)
  | dynamicName slot location =>
      obtain ⟨node, reading⟩ := inside order
      obtain rfl := Except.ok.inj stepped
      exact walked.addInterpolated (adds_withDynamicName ..) reading rfl (.dynamicName ..)
  | child slot location =>
      obtain rfl := Except.ok.inj stepped
      exact walked.addSlot (outside order) slot location
  | ignored slot =>
      obtain rfl := Except.ok.inj stepped
      exact walked.passed (.ignored slot)

/-- The walk meets the tokens of a template in order, by induction on them. What the tags say
about the nodes is kept alongside.
-/
theorem steps (walked : BuildingWalked resolver options slotCount tokens building)
    (read : BuildingRead resolver options all building) {rest : List Token} {next : Building}
    {inTag : Bool} (member : ∀ token ∈ rest, token ∈ all)
    (order : rest.foldlM Token.after? building.current.isSome = some inTag)
    (stepped : rest.foldlM (Tree.step resolver options) building = .ok next)
    : BuildingWalked resolver options slotCount (tokens ++ rest) next
      ∧ next.current.isSome = inTag := by
  induction rest generalizing building tokens with
  | nil =>
      obtain rfl := Except.ok.inj stepped
      exact ⟨by simpa only [List.append_nil] using walked, Option.some.inj order⟩
  | cons token rest ih =>
      obtain ⟨inTag', first, later⟩ := Option.bind_eq_some_iff.mp order
      obtain ⟨reached, one, stepped⟩ := steps_cons stepped
      obtain ⟨kept, same⟩ := read.step (member token (by simp)) first one
      have moved := ih (walked.step read first one) kept
        (fun other isLater => member other (by simp [isLater])) (same ▸ later) stepped
      simpa only [List.append_assoc, List.singleton_append] using moved

end BuildingWalked

/-- The walk over the tree of a template meets the tokens of the template, and every node is
closed and knows the element around it.
-/
theorem parse_walked {fragments : List String} {tree : Tree}
    (parsed : parse resolver options fragments = .ok tree)
    : Accounts resolver options (fragments.length - 1) (Token.scan fragments).tokens none
        tree.walk tree.slots
      ∧ Child.AllComplete none tree.roots := by
  obtain ⟨scanned, building, built, outermost, rfl⟩ := parse_eq parsed
  obtain ⟨high, moves⟩ := Token.scan_moves scanned
  obtain ⟨walked, same⟩ := (BuildingWalked.start (fragments.length - 1)).steps
    (.start (fragments.length - 1)) (fun _ member => member) moves.order built
  have idle : building.current = none :=
    Option.isNone_iff_eq_none.mp (Option.isSome_eq_false_iff.mp same)
  have accounts := walked.accounts
  rw [Building.walk_idle idle, Building.walked, outermost, walkFrames, List.append_nil,
    Building.parent?, outermost] at accounts
  exact ⟨accounts, walked.roots⟩

end Tree

end TaggedMarkup
