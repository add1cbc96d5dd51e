import TaggedMarkup.Proofs.Outcomes
import TaggedMarkup.Proofs.Reading.Nodes
import TaggedMarkup.Proofs.Reading.Order
import TaggedMarkup.Proofs.Reading.Text

/-! The stack of open elements while a template is read. One token keeps the invariant of all
nodes, so the tree of a template that can be read has it.
-/

namespace TaggedMarkup.Tree

variable {resolver : Resolver} {options : ReadOptions} {tokens : List Token}

-----------------------------------------------------------------------------------------
-- Numbers
-----------------------------------------------------------------------------------------

/-- The numbers of the nodes in children. -/
def childIds (children : List Child) : List Nat :=
  (Child.branchesOf children).map fun branch => branch.node.id

/-- The numbers of an open element and the nodes in it. -/
def Frame.ids (frame : Frame) : List Nat :=
  frame.node.id :: childIds frame.children

namespace Building

/-- The numbers of all nodes whose open tags have been read. -/
def ids (building : Building) : List Nat :=
  childIds building.roots ++ building.frames.reverse.flatMap Frame.ids

/-- The children read so far of the innermost open element. -/
def children (building : Building) : List Child :=
  match building.frames with
  | [] => building.roots
  | frame :: _ => frame.children

end Building

theorem childIds_append (children others : List Child)
    : childIds (children ++ others) = childIds children ++ childIds others := by
  simp only [childIds, branchesOf_append, List.map_append]

theorem childIds_branch (node : Node) (children : List Child)
    : childIds [.branch node children] = node.id :: childIds children := by
  simp only [childIds, Child.branchesOf, Child.branches, List.append_nil, List.map_cons]

/-- An added child comes after all nodes read before. -/
theorem Building.ids_addChild (building : Building) (child : Child)
    : (building.addChild child).ids = building.ids ++ childIds [child] := by
  obtain ⟨frames, roots, current, afterVoid, nextId, slots, ties⟩ := building
  cases frames with
  | nil => simp [addChild, ids, childIds_append]
  | cons frame outer => simp [addChild, ids, childIds_append, Frame.ids]

-----------------------------------------------------------------------------------------
-- The invariant
-----------------------------------------------------------------------------------------

/-- An open element with the children read so far. -/
structure FrameRead (resolver : Resolver) (options : ReadOptions) (ties : List String)
    (tokens : List Token) (frame : Frame)
    : Prop where
  opened : NodeOpened resolver options ties frame.node
  notVoid : frame.node.isVoid = false
  notClosed : frame.node.closed = none
  children : ChildrenRead resolver options ties tokens frame.children

/-- The nodes outside of the open tag that is being read are open or complete. -/
structure StackRead (resolver : Resolver) (options : ReadOptions) (tokens : List Token)
    (building : Building)
    : Prop where
  roots : ChildrenRead resolver options building.ties tokens building.roots
  frames
    : ∀ frame ∈ building.frames, FrameRead resolver options building.ties tokens frame

/-- All nodes are in the state of their stage and numbered in order. After a void element that
has no closing tag yet, it is the last child.
-/
structure BuildingRead (resolver : Resolver) (options : ReadOptions) (tokens : List Token)
    (building : Building)
    : Prop where
  stack : StackRead resolver options tokens building
  current
    : ∀ node,
        building.current = some node → NodeBegun resolver options building.ties node
  numbered
    : building.ids ++ (building.current.map Node.id).toList = List.range building.nextId
  lastVoid
    : building.afterVoid = true
      → ∃ before node,
          building.children = before ++ [.branch node []]
          ∧ node.isVoid = true
          ∧ node.closed = none
  opening : building.current.isSome = true → building.afterVoid = false

theorem BuildingRead.start (slotCount : Nat)
    : BuildingRead resolver options tokens (.start slotCount) where
  stack := ⟨.nil, by simp [Building.start]⟩
  current := by simp [Building.start]
  numbered := rfl
  lastVoid := by simp [Building.start]
  opening := by simp [Building.start]

theorem FrameRead.mono {ties more : List String} {frame : Frame}
    (read : FrameRead resolver options ties tokens frame) (subset : ∀ name ∈ ties, name ∈ more)
    : FrameRead resolver options more tokens frame :=
  { read with opened := read.opened.mono subset, children := read.children.mono subset }

/-- What is added to the children of the innermost open element is kept. -/
theorem StackRead.addChild {building : Building}
    (stack : StackRead resolver options tokens building) {child : Child}
    (childRead : ChildrenRead resolver options building.ties tokens [child])
    : StackRead resolver options tokens (building.addChild child) := by
  obtain ⟨frames, roots, current, afterVoid, nextId, slots, ties⟩ := building
  cases frames with
  | nil => exact ⟨stack.roots.append childRead, by simp [Building.addChild]⟩
  | cons frame outer =>
      refine ⟨stack.roots, ?_⟩
      intro other member
      simp only [Building.addChild, List.mem_cons] at member
      have inner := stack.frames frame (by simp)
      rcases member with rfl | outside
      · exact { inner with children := inner.children.append childRead }
      · exact stack.frames other (by simp [outside])

theorem Building.children_addChild (building : Building) (child : Child)
    : (building.addChild child).children = building.children ++ [child] := by
  obtain ⟨frames, roots, current, afterVoid, nextId, slots, ties⟩ := building
  cases frames <;> rfl

/-- Adding a child changes neither the open tag nor what is counted. -/
theorem Building.addChild_apart (building : Building) (child : Child)
    : (building.addChild child).current = building.current
      ∧ (building.addChild child).nextId = building.nextId
      ∧ (building.addChild child).ties = building.ties := by
  obtain ⟨frames, roots, current, afterVoid, nextId, slots, ties⟩ := building
  cases frames <;> exact ⟨rfl, rfl, rfl⟩

/-- Only the last child can be closed. -/
theorem closeLast?_cons_cons (name : String) (location : Location) (first second : Child)
    (rest : List Child)
    : closeLast? name location (first :: second :: rest)
      = (closeLast? name location (second :: rest)).map (first :: ·) := by
  cases first <;> rfl

/-- A closing tag that belongs to a void element is noted on the last child. -/
theorem closeLast?_eq {name : String} {location : Location} {children closed : List Child}
    (closes : closeLast? name location children = some closed)
    : ∃ before node inside,
        children = before ++ [.branch node inside]
        ∧ closed = before ++ [.branch { node with closed := some location } inside]
        ∧ node.name = name := by
  induction children generalizing closed with
  | nil => cases closes
  | cons first rest ih =>
      cases rest with
      | nil =>
          cases first with
          | branch node inside =>
              simp only [closeLast?] at closes
              split at closes
              next same => exact ⟨[], node, inside, rfl, (Option.some.inj closes).symm, same⟩
              next => cases closes
          | _ => cases closes
      | cons second others =>
          rw [closeLast?_cons_cons] at closes
          obtain ⟨closedRest, found, rfl⟩ := Option.map_eq_some_iff.mp closes
          obtain ⟨before, node, inside, isRest, isClosed, same⟩ := ih found
          exact ⟨first :: before, node, inside, by simp [isRest], by simp [isClosed], same⟩

/-- How a closing tag is noted on a void element, the last child of the template or of the
innermost open element.
-/
inductive VoidClosed (name : String) (location : Location) (building : Building)
    : Building → Prop where
  | atRoot {children : List Child} (after : building.afterVoid = true)
      (frames : building.frames = [])
      (found : closeLast? name location building.roots = some children)
      : VoidClosed name location building { building with roots := children, afterVoid := false }
  | inside {frame : Frame} {outer : List Frame} {children : List Child}
      (after : building.afterVoid = true) (frames : building.frames = frame :: outer)
      (found : closeLast? name location frame.children = some children)
      : VoidClosed name location building
          { building with frames := { frame with children } :: outer, afterVoid := false }

theorem VoidClosed.of_closeVoid? {name : String} {location : Location}
    {building closed : Building} (closes : closeVoid? building name location = some closed)
    : VoidClosed name location building closed := by
  simp only [closeVoid?] at closes
  split at closes
  next after =>
      split at closes
      next frames =>
          obtain ⟨children, found, rfl⟩ := Option.map_eq_some_iff.mp closes
          exact .atRoot after frames found
      next frame outer frames =>
          obtain ⟨children, found, rfl⟩ := Option.map_eq_some_iff.mp closes
          exact .inside after frames found
  next => cases closes

/-- How a closing tag is read: it completes the innermost open element, or it is one that a
void element need not have.
-/
inductive TagClosed (resolver : Resolver) (name : String) (location : Location)
    (building : Building)
    : Building → Prop where
  | frame {frame : Frame} {outer : List Frame} (frames : building.frames = frame :: outer)
      (isClosing : closes resolver frame.node name = true)
      : TagClosed resolver name location building
          { ({ building with frames := outer } : Building).addChild
              (.branch { frame.node with closed := some location, isClosed := true }
                frame.children) with
            afterVoid := false }
  | void {closed : Building} (closing : VoidClosed name location building closed)
      : TagClosed resolver name location building closed

theorem TagClosed.of_closeTag {name : String} {location : Location}
    {building closed : Building} (closing : closeTag resolver building name location = .ok closed)
    : TagClosed resolver name location building closed := by
  simp only [closeTag] at closing
  split at closing
  next frame outer frames =>
      split at closing
      next isClosing =>
          obtain rfl := Except.ok.inj closing
          exact .frame frames isClosing
      next =>
          split at closing
          next voidClosed =>
              obtain rfl := Except.ok.inj closing
              exact .void (.of_closeVoid? voidClosed)
          next => cases closing
  next =>
      split at closing
      next voidClosed =>
          obtain rfl := Except.ok.inj closing
          exact .void (.of_closeVoid? voidClosed)
      next => cases closing

theorem steps_cons {building last : Building} {token : Token} {rest : List Token}
    (stepped : (token :: rest).foldlM (step resolver options) building = .ok last)
    : ∃ reached,
        step resolver options building token = .ok reached
        ∧ rest.foldlM (step resolver options) reached = .ok last :=
  exists_of_bind stepped

namespace BuildingRead

variable {building : Building}

/-- A child is added outside of an open tag. -/
theorem addChild (read : BuildingRead resolver options tokens building) {child : Child}
    (childRead : ChildrenRead resolver options building.ties tokens [child])
    (free : childIds [child] = [])
    : BuildingRead resolver options tokens
        { building.addChild child with afterVoid := false } := by
  obtain ⟨current, nextId, ties⟩ := building.addChild_apart child
  exact {
    stack := ⟨(read.stack.addChild childRead).roots, (read.stack.addChild childRead).frames⟩
    current := by simpa only [current, ties] using read.current
    numbered := by
      have ids := building.ids_addChild child
      rw [free, List.append_nil] at ids
      have numbered := read.numbered
      rw [← ids, ← current, ← nextId] at numbered
      exact numbered
    lastVoid := by simp
    opening := by simp
  }

theorem addText (read : BuildingRead resolver options tokens building) (raw : String)
    : BuildingRead resolver options tokens (addText options building raw) := by
  simp only [Tree.addText]
  split
  next => exact read
  next text cleaned =>
      split
      · exact read
      · exact read.addChild (.text (decoded_ne (cleaned?_ne cleaned))) rfl

/-- A tag that depends on a name is noted. -/
theorem tie (read : BuildingRead resolver options tokens building) (name : String)
    : BuildingRead resolver options tokens (building.tie name) := by
  simp only [Building.tie]
  split
  · exact read
  · have subset : ∀ tie ∈ building.ties, tie ∈ building.ties ++ [name] := by simp +contextual
    exact {
      stack := {
        roots := read.stack.roots.mono subset
        frames := fun frame member => (read.stack.frames frame member).mono subset
      }
      current := fun node same =>
        { read.current node same with named := (read.current node same).named.mono subset }
      numbered := read.numbered
      lastVoid := read.lastVoid
      opening := read.opening
    }

/-- The name that has been noted is among the ties. -/
theorem mem_tie (building : Building) (name : String) : name ∈ (building.tie name).ties := by
  simp only [Building.tie]
  split
  next present => simpa using present
  next => simp

theorem openTag (read : BuildingRead resolver options tokens building)
    (idle : building.current = none) (name : String) (location : Location)
    : BuildingRead resolver options tokens
        (openTag resolver options building name location) := by
  have numbered := read.numbered
  simp only [Tree.openTag]
  generalize tying : (if (resolveTag resolver name).2 = true then building.tie name else building)
    = tied
  have tiedRead : BuildingRead resolver options tokens tied := by
    rw [← tying]
    split
    · exact read.tie name
    · exact read
  have apart : tied.nextId = building.nextId ∧ tied.ids = building.ids := by
    rw [← tying]
    simp only [Building.tie]
    split
    · split <;> exact ⟨rfl, rfl⟩
    · exact ⟨rfl, rfl⟩
  have isTied : (resolveTag resolver name).2 = true → name ∈ tied.ties := by
    intro isTrue
    rw [← tying, if_pos isTrue]
    exact mem_tie building name
  exact {
    stack := ⟨tiedRead.stack.roots, tiedRead.stack.frames⟩
    current := by
      intro node same
      obtain rfl := Option.some.inj same
      refine ⟨⟨rfl, isTied, ?_, ?_⟩, rfl, rfl⟩
      · simp only [Node.elementName?]
        cases (resolveTag resolver name).1 <;> rfl
      · simp only [Node.elementName?, Node.hasNamed, List.any_nil, Bool.or_false]
        cases (resolveTag resolver name).1 <;> rfl
    numbered := by
      simp only [idle, Option.map_none, Option.toList_none, List.append_nil] at numbered
      have ids : tied.ids = List.range building.nextId := apart.2.trans numbered
      simp only [Building.ids] at ids ⊢
      simp [ids, List.range_succ]
    lastVoid := by simp
    opening := by simp
  }

/-- The open tag that is being read is changed. -/
theorem changeCurrent (read : BuildingRead resolver options tokens building)
    {change : Node → Node}
    (keeps
      : ∀ node,
          NodeBegun resolver options building.ties node
          → NodeBegun resolver options building.ties (change node) ∧ (change node).id = node.id)
    : BuildingRead resolver options tokens (changeCurrent building change) where
  stack := ⟨read.stack.roots, read.stack.frames⟩
  current node same := by
    obtain ⟨before, found, rfl⟩ := Option.map_eq_some_iff.mp same
    exact (keeps before (read.current before found)).1
  numbered := by
    have numbered := read.numbered
    simp only [Tree.changeCurrent, Option.map_map]
    cases found : building.current with
    | none => simpa [found, Building.ids] using numbered
    | some node =>
        simpa [found, Building.ids, (keeps node (read.current node found)).2] using numbered
  lastVoid := read.lastVoid
  opening same := read.opening (by simpa [Tree.changeCurrent] using same)

theorem setSlot (read : BuildingRead resolver options tokens building) (slot : Nat)
    (kind : SlotKind)
    : BuildingRead resolver options tokens (building.setSlot slot kind) :=
  ⟨⟨read.stack.roots, read.stack.frames⟩, read.current, read.numbered, read.lastVoid,
    read.opening⟩

/-- What a slot is to the open tag that is being read changes no node. -/
theorem noteSlot (read : BuildingRead resolver options tokens building) (slot : Nat)
    (kind : Nat → SlotKind)
    : BuildingRead resolver options tokens (noteSlot building slot kind) := by
  simp only [Tree.noteSlot]
  split
  · exact read
  · exact read.setSlot slot _

/-- What is noted of the innermost open element apart from its name and its attributes does not
matter.
-/
theorem changeFrame {frame : Frame} {outer : List Frame}
    (read : BuildingRead resolver options tokens building)
    (frames : building.frames = frame :: outer) (node : Node) (id : node.id = frame.node.id)
    (closed : node.closed = frame.node.closed) (isVoid : node.isVoid = frame.node.isVoid)
    (opened : NodeOpened resolver options building.ties node)
    : BuildingRead resolver options tokens
        { building with frames := { frame with node } :: outer } := by
  obtain ⟨frames', roots, current, afterVoid, nextId, slots, ties⟩ := building
  obtain rfl : frames' = frame :: outer := frames
  have inner := read.stack.frames frame (by simp)
  refine ⟨⟨read.stack.roots, ?_⟩, read.current, ?_, read.lastVoid,
    read.opening⟩
  · intro other member
    rcases List.mem_cons.mp member with rfl | outside
    · exact ⟨opened, isVoid.trans inner.notVoid, closed.trans inner.notClosed, inner.children⟩
    · exact read.stack.frames other (by simp [outside])
  · simpa [Building.ids, Frame.ids, id] using read.numbered

/-- A slot is added to the children, and noted at the element around it. -/
theorem addSlot (read : BuildingRead resolver options tokens building) (slot : Nat)
    : BuildingRead resolver options tokens (addSlot building slot) := by
  cases frames : building.frames with
  | nil =>
      simp only [Tree.addSlot, frames]
      exact (read.addChild (.slot slot) rfl).setSlot slot _
  | cons frame outer =>
      simp only [Tree.addSlot, frames]
      have inner := read.stack.frames frame (by simp [frames])
      have noted := read.changeFrame frames
        { frame.node with
          dynamicChildren := frame.node.dynamicChildren ++ [(frame.children.length, slot)] }
        rfl rfl rfl (inner.opened.of_same rfl rfl rfl rfl rfl rfl)
      exact (noted.addChild (.slot slot) rfl).setSlot slot _

/-- A node without children is complete when its open tag ends. -/
theorem begun_complete {ties : List String} {node : Node}
    (begun : NodeBegun resolver options ties node) (isSelfClosing isClosed : Bool)
    : ChildrenRead resolver options ties tokens
        [.branch { notedAfter node with isSelfClosing, isClosed } []] := by
  refine .branch ⟨?_, fun _ => rfl, by simp, ?_⟩ .nil
  · exact begun.notedAfter.of_same rfl rfl rfl rfl rfl rfl
  · intro location isClosed
    cases begun.closed.symm.trans isClosed

/-- A node without children is added when its open tag ends. -/
theorem addBegun (read : BuildingRead resolver options tokens building) {node : Node}
    (isCurrent : building.current = some node) (isSelfClosing isClosed afterVoid : Bool)
    (isVoid : afterVoid = true → node.isVoid = true)
    : BuildingRead resolver options tokens
        { ({ building with current := none } : Building).addChild
            (.branch { notedAfter node with isSelfClosing, isClosed } []) with
          afterVoid } := by
  have begun := read.current node isCurrent
  have numbered := read.numbered
  simp only [isCurrent, Option.map_some, Option.toList_some] at numbered
  generalize without : ({ building with current := none } : Building) = apart
  have stack : StackRead resolver options tokens apart := by
    rw [← without]
    exact ⟨read.stack.roots, read.stack.frames⟩
  have ties : apart.ties = building.ties := by rw [← without]
  have ids : apart.ids ++ [node.id] = List.range apart.nextId := by
    rw [← without]
    exact numbered
  have idle : apart.current = none := by rw [← without]
  have added := stack.addChild (ties ▸ begun_complete begun isSelfClosing isClosed)
  obtain ⟨sameCurrent, sameNext, -⟩ :=
    apart.addChild_apart (.branch { notedAfter node with isSelfClosing, isClosed } [])
  exact {
    stack := ⟨added.roots, added.frames⟩
    current := by simp [sameCurrent, idle]
    numbered := by
      have later := apart.ids_addChild (.branch { notedAfter node with isSelfClosing, isClosed } [])
      simp only [sameCurrent, sameNext, idle, Option.map_none, Option.toList_none, List.append_nil]
      exact later.trans ids
    lastVoid := fun after =>
      ⟨_, _, apart.children_addChild _, isVoid after, begun.closed⟩
    opening := by simp [sameCurrent, idle]
  }

/-- An open tag ends: the node is complete when the tag closes itself or the element is void,
and open otherwise.
-/
theorem openEnd (read : BuildingRead resolver options tokens building) (selfClosing : Bool)
    : BuildingRead resolver options tokens (openEnd building selfClosing) := by
  simp only [Tree.openEnd]
  cases isCurrent : building.current with
  | none => exact read
  | some node =>
      have begun := read.current node isCurrent
      have numbered := read.numbered
      have quiet := read.opening (by simp [isCurrent])
      simp only [isCurrent, Option.map_some, Option.toList_some] at numbered
      simp only
      split
      · have added := read.addBegun isCurrent true true false (by simp)
        have same (child : Child)
            : { ({ building with current := none } : Building).addChild child with
                afterVoid := false }
              = ({ building with current := none } : Building).addChild child := by
          obtain ⟨frames, roots, current, afterVoid, nextId, slots, ties⟩ := building
          obtain rfl : afterVoid = false := quiet
          cases frames <;> rfl
        exact same _ ▸ added
      split
      next isVoid => exact read.addBegun isCurrent _ true true fun _ => isVoid
      next notVoid =>
          exact {
            stack := {
              roots := read.stack.roots
              frames := by
                intro frame member
                rcases List.mem_cons.mp member with rfl | outside
                · exact ⟨begun.notedAfter, by simpa using notVoid, begun.closed, .nil⟩
                · exact read.stack.frames frame outside
            }
            current := by simp
            numbered := by
              simpa [Building.ids, Frame.ids, notedAfter, childIds, Child.branchesOf]
                using numbered
            lastVoid := fun after => nomatch quiet.symm.trans after
            opening := by simp
          }

/-- A closing tag that is noted on a void element keeps the children as they are otherwise. -/
theorem closeLast {ties : List String} {name : String} {location : Location}
    {children closed : List Child} (read : ChildrenRead resolver options ties tokens children)
    (last
      : ∃ before node,
          children = before ++ [.branch node []] ∧ node.isVoid = true ∧ node.closed = none)
    (closes : closeLast? name location children = some closed)
    (member : .closeTag name location ∈ tokens)
    : ChildrenRead resolver options ties tokens closed
      ∧ childIds closed = childIds children := by
  obtain ⟨before, node, rfl, -, -⟩ := last
  obtain ⟨before', node', inside, same, rfl, isName⟩ := closeLast?_eq closes
  obtain ⟨rfl, isLast⟩ := List.append_inj' same rfl
  obtain ⟨rfl, rfl⟩ := Child.branch.inj (List.singleton_inj.mp isLast)
  have complete := read.branches ⟨node, []⟩
    (by simp [branchesOf_append, Child.branchesOf, Child.branches])
  refine ⟨read.left.append (.branch ⟨?_, fun _ => rfl, by simp, ?_⟩ .nil), ?_⟩
  · exact complete.opened.of_same rfl rfl rfl rfl rfl rfl
  · intro other isClosed
    obtain rfl := Option.some.inj isClosed
    exact ⟨name, member, by simp [Tree.closes, isName]⟩
  · simp only [childIds_append, childIds_branch]

/-- A closing tag of a void element is read. -/
theorem closeVoid (read : BuildingRead resolver options tokens building) {name : String}
    {location : Location} {closed : Building} (closing : VoidClosed name location building closed)
    (member : .closeTag name location ∈ tokens)
    : BuildingRead resolver options tokens closed ∧ closed.current = building.current := by
  obtain ⟨frames, roots, current, afterVoid, nextId, slots, ties⟩ := building
  have numbered := read.numbered
  cases closing with
  | atRoot after isRoot found =>
      obtain rfl : frames = [] := isRoot
      obtain ⟨kept, ids⟩ := closeLast read.stack.roots (read.lastVoid after) found member
      refine ⟨⟨⟨kept, by simp⟩, read.current, ?_, by simp, by simp⟩, rfl⟩
      simpa [Building.ids, ids] using numbered
  | @inside frame outer _ after isInside found =>
      obtain rfl : frames = frame :: outer := isInside
      have inner := read.stack.frames frame (by simp)
      obtain ⟨kept, ids⟩ := closeLast inner.children (read.lastVoid after) found member
      refine ⟨⟨⟨read.stack.roots, ?_⟩, read.current, ?_, by simp, by simp⟩, rfl⟩
      · intro other isFrame
        rcases List.mem_cons.mp isFrame with rfl | outside
        · exact { inner with children := kept }
        · exact read.stack.frames other (by simp [outside])
      · simpa [Building.ids, Frame.ids, ids] using numbered

/-- The innermost open element is closed by a tag that matches it. -/
theorem closeFrame {frame : Frame} {outer : List Frame}
    (read : BuildingRead resolver options tokens building)
    (frames : building.frames = frame :: outer) {name : String} {location : Location}
    (isClosing : closes resolver frame.node name = true)
    (member : .closeTag name location ∈ tokens)
    : BuildingRead resolver options tokens
        { ({ building with frames := outer } : Building).addChild
            (.branch { frame.node with closed := some location, isClosed := true }
              frame.children) with
          afterVoid := false } := by
  obtain ⟨frames', roots, current, afterVoid, nextId, slots, ties⟩ := building
  obtain rfl : frames' = frame :: outer := frames
  have inner := read.stack.frames frame (by simp)
  have numbered := read.numbered
  generalize isNode : { frame.node with closed := some location, isClosed := true } = node
  generalize without : (⟨outer, roots, current, afterVoid, nextId, slots, ties⟩ : Building) = apart
  have stack : StackRead resolver options tokens apart := by
    rw [← without]
    exact ⟨read.stack.roots, fun other outside => read.stack.frames other (by simp [outside])⟩
  have complete
      : ChildrenRead resolver options apart.ties tokens [.branch node frame.children] := by
    rw [← isNode, ← without]
    refine .branch ⟨?_, ?_, inner.children.texts, ?_⟩
      inner.children
    · exact inner.opened.of_same rfl rfl rfl rfl rfl rfl
    · intro isVoid
      cases inner.notVoid.symm.trans isVoid
    · intro other isClosed
      obtain rfl := Option.some.inj isClosed
      exact ⟨name, member, isClosing⟩
  have ids := apart.ids_addChild (.branch node frame.children)
  have added := stack.addChild complete
  obtain ⟨sameCurrent, sameNext, sameTies⟩ := apart.addChild_apart (.branch node frame.children)
  have isCurrent : apart.current = current := by rw [← without]
  have isNext : apart.nextId = nextId := by rw [← without]
  have isTied : apart.ties = ties := by rw [← without]
  exact {
    stack := ⟨added.roots, added.frames⟩
    current := by
      simp only [sameCurrent, sameTies, isCurrent, isTied]
      exact read.current
    numbered := by
      simp only [sameCurrent, sameNext, isCurrent, isNext]
      refine Eq.trans ?_ numbered
      refine congrArg (· ++ (current.map Node.id).toList) (ids.trans ?_)
      rw [childIds_branch, ← isNode, ← without]
      simp [Building.ids, Frame.ids]
    lastVoid := by simp
    opening := by simp
  }

/-- A closing tag is read, unless it matches nothing. -/
theorem closeTag (read : BuildingRead resolver options tokens building) {name : String}
    {location : Location} {closed : Building}
    (closing : closeTag resolver building name location = .ok closed)
    (member : .closeTag name location ∈ tokens)
    : BuildingRead resolver options tokens closed ∧ closed.current = building.current := by
  cases TagClosed.of_closeTag closing with
  | frame frames isClosing =>
      exact ⟨read.closeFrame frames isClosing member, (Building.addChild_apart ..).1⟩
  | void closing => exact read.closeVoid closing member

-----------------------------------------------------------------------------------------
-- Tokens
-----------------------------------------------------------------------------------------

theorem step (read : BuildingRead resolver options tokens building) {token : Token}
    {next : Building} {inTag : Bool} (member : token ∈ tokens)
    (order : token.after? building.current.isSome = some inTag)
    (stepped : step resolver options building token = .ok next)
    : BuildingRead resolver options tokens next ∧ next.current.isSome = inTag := by
  have outside (isOutside : (if building.current.isSome then none else some false) = some inTag)
      : building.current = none ∧ inTag = false := by
    cases isCurrent : building.current <;> simp_all
  have inside (isInside : (if building.current.isSome then some true else none) = some inTag)
      : building.current.isSome = true ∧ inTag = true := by
    cases isCurrent : building.current <;> simp_all
  cases token with
  | text raw location =>
      obtain rfl := Except.ok.inj stepped
      obtain ⟨idle, rfl⟩ := outside order
      refine ⟨read.addText raw, ?_⟩
      simp only [Tree.addText]
      split
      · simp [idle]
      · split <;> simp [idle, Building.addChild_apart]
  | openTag name location =>
      obtain rfl := Except.ok.inj stepped
      have idle : building.current = none := by
        cases isCurrent : building.current with
        | none => rfl
        | some node => simp [isCurrent, Token.after?] at order
      obtain rfl : true = inTag := by simpa [idle, Token.after?] using order
      exact ⟨read.openTag idle name location, rfl⟩
  | openEnd selfClosing =>
      obtain rfl := Except.ok.inj stepped
      obtain ⟨node, isCurrent⟩ : ∃ node, building.current = some node := by
        cases isCurrent : building.current with
        | none => simp [isCurrent, Token.after?] at order
        | some node => exact ⟨node, rfl⟩
      obtain rfl : false = inTag := by simpa [isCurrent, Token.after?] using order
      refine ⟨read.openEnd selfClosing, ?_⟩
      simp only [Tree.openEnd, isCurrent]
      split
      · simp [Building.addChild_apart]
      · split <;> simp [Building.addChild_apart]
  | closeTag name location =>
      obtain ⟨idle, rfl⟩ := outside order
      obtain ⟨kept, same⟩ := read.closeTag stepped member
      exact ⟨kept, by simp [same, idle]⟩
  | «attribute» name value location =>
      obtain ⟨isCurrent, rfl⟩ := inside order
      cases value with
      | literal raw =>
          obtain rfl := Except.ok.inj stepped
          refine ⟨read.changeCurrent fun node begun => ⟨begun.withNamed .., rfl⟩, ?_⟩
          simpa [Tree.changeCurrent] using isCurrent
      | bare =>
          obtain rfl := Except.ok.inj stepped
          refine ⟨read.changeCurrent fun node begun => ⟨begun.withNamed .., rfl⟩, ?_⟩
          simpa [Tree.changeCurrent] using isCurrent
      | slot index =>
          obtain rfl := Except.ok.inj stepped
          refine ⟨(read.noteSlot ..).changeCurrent fun node begun => ⟨begun.withNamed .., rfl⟩, ?_⟩
          cases found : building.current <;>
            simp_all [Tree.changeCurrent, Tree.noteSlot, Building.setSlot]
  | spread slot location =>
      obtain ⟨isCurrent, rfl⟩ := inside order
      obtain rfl := Except.ok.inj stepped
      refine ⟨(read.noteSlot ..).changeCurrent fun node begun => ⟨begun.withSpread .., rfl⟩, ?_⟩
      cases found : building.current <;>
        simp_all [Tree.changeCurrent, Tree.noteSlot, Building.setSlot]
  | dynamicName slot location =>
      obtain ⟨isCurrent, rfl⟩ := inside order
      obtain rfl := Except.ok.inj stepped
      refine ⟨(read.noteSlot ..).changeCurrent
        fun node begun => ⟨begun.withDynamicName .., rfl⟩, ?_⟩
      cases found : building.current <;>
        simp_all [Tree.changeCurrent, Tree.noteSlot, Building.setSlot]
  | child slot location =>
      obtain ⟨idle, rfl⟩ := outside order
      obtain rfl := Except.ok.inj stepped
      refine ⟨read.addSlot slot, ?_⟩
      simp only [Tree.addSlot, Building.setSlot, Building.addChild_apart]
      cases frames : building.frames <;> simp [idle]
  | ignored slot =>
      obtain rfl := Except.ok.inj stepped
      exact ⟨read, Option.some.inj order⟩

/-- Tokens in order keep the invariant, by induction on them. -/
theorem steps (read : BuildingRead resolver options tokens building) {rest : List Token}
    {next : Building} {inTag : Bool} (member : ∀ token ∈ rest, token ∈ tokens)
    (order : rest.foldlM Token.after? building.current.isSome = some inTag)
    (stepped : rest.foldlM (Tree.step resolver options) building = .ok next)
    : BuildingRead resolver options tokens next ∧ next.current.isSome = inTag := by
  induction rest generalizing building with
  | nil =>
      obtain rfl := Except.ok.inj stepped
      exact ⟨read, Option.some.inj order⟩
  | cons token rest ih =>
      obtain ⟨inTag', first, later⟩ := Option.bind_eq_some_iff.mp order
      obtain ⟨reached, one, stepped⟩ := steps_cons stepped
      obtain ⟨kept, same⟩ := read.step (member token (by simp)) first one
      exact ih kept (fun other isLater => member other (by simp [isLater])) (same ▸ later) stepped

end BuildingRead

end TaggedMarkup.Tree
