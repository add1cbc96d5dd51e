import TaggedMarkup.Proofs.Reading.Parsed

/-! A walk over a tree, children after the open tag of their node and before its closing tag,
meets what the tokens of the template were, in their order. While a template is read, the walk
over the open and the complete elements has met the tokens read so far.
-/

namespace TaggedMarkup

-----------------------------------------------------------------------------------------
-- Walks
-----------------------------------------------------------------------------------------

/-- What a walk meets. Nodes are given by their numbers. -/
inductive Event where
  | text (text : String)
  | openTag (node : Nat) (name : String) (location : Location)
  | attribute (node : Nat) (written : Attribute)
  | openEnd (node : Nat) (selfClosing : Bool)
  | slot (index : Nat)
  | closeTag (node : Nat) (name : String) (location : Location)
deriving DecidableEq, Repr

/-- What a walk meets, and the element around what comes next. -/
structure Visit where
  event : Event
  around : Option Nat
deriving DecidableEq, Repr

/-- The element around what follows the open tag of a node. -/
def Node.inside (node : Node) (around : Option Nat) : Option Nat :=
  if node.isSelfClosing || node.isVoid then around else some node.id

/-- The open tag of a node up to its end, with the attributes in order. -/
def Node.beginning (node : Node) (around : Option Nat) : List Visit :=
  ⟨.openTag node.id node.name node.opened, around⟩
    :: node.attributes.map fun written => ⟨.attribute node.id written, around⟩

/-- The whole open tag of a node. -/
def Node.opening (node : Node) (around : Option Nat) : List Visit :=
  node.beginning around ++ [⟨.openEnd node.id node.isSelfClosing, node.inside around⟩]

mutual

/-- The walk over a child: a node is met at its open tag and at its closing tag, if it has one,
and its children are met in between.
-/
def Child.walk (around : Option Nat) : Child → List Visit
  | .text written => [⟨.text written, around⟩]
  | .slot index => [⟨.slot index, around⟩]
  | .branch node children =>
      node.opening around
        ++ Child.walkOf (some node.id) children
        ++ (node.closed.map fun location => ⟨.closeTag node.id node.name location, around⟩).toList

/-- The walk over children in order. -/
def Child.walkOf (around : Option Nat) : List Child → List Visit
  | [] => []
  | child :: rest => child.walk around ++ Child.walkOf around rest

end

theorem Child.walkOf_append (around : Option Nat) (children others : List Child)
    : Child.walkOf around (children ++ others)
      = Child.walkOf around children ++ Child.walkOf around others := by
  induction children with
  | nil => rfl
  | cons child rest ih => simp only [List.cons_append, Child.walkOf, ih, List.append_assoc]

theorem Child.walkOf_singleton (around : Option Nat) (child : Child)
    : Child.walkOf around [child] = child.walk around := by
  simp only [Child.walkOf, List.append_nil]

namespace Tree

/-- The walk over a whole tree. -/
def walk (tree : Tree) : List Visit :=
  Child.walkOf none tree.roots

-----------------------------------------------------------------------------------------
-- Tokens
-----------------------------------------------------------------------------------------

/-- What is left of literal text: its spaces are treated and its character references are
decoded. Nothing is left of blank text around which there is no element.
-/
def survivor? (options : ReadOptions) (around : Option Nat) (raw : String) : Option String :=
  (cleaned? options raw).bind fun text =>
    if around = none ∧ Text.allBlank text then none else some (decoded options text)

/-- A walk meets a token. A closing tag has the name of the node that it closes, or a name of
the same component.
-/
inductive Meets (resolver : Resolver) (options : ReadOptions) (around : Option Nat)
    : Event → Token → Prop
  | text {raw text : String} (location : Location)
    (survives : survivor? options around raw = some text)
    : Meets resolver options around (.text text) (.text raw location)
  | openTag (node : Nat) (name : String) (location : Location)
    : Meets resolver options around (.openTag node name location) (.openTag name location)
  | literal (node : Nat) (name raw : String) (location : Location)
    : Meets resolver options around
        (.attribute node (.named name (.literal (decoded options raw)) location))
        (.attribute name (.literal raw) location)
  | bare (node : Nat) (name : String) (location : Location)
    : Meets resolver options around (.attribute node (.named name .bare location))
        (.attribute name .bare location)
  | interpolated (node : Nat) (name : String) (slot : Nat) (location : Location)
    : Meets resolver options around (.attribute node (.named name (.slot slot) location))
        (.attribute name (.slot slot) location)
  | spread (node slot : Nat) (location : Location)
    : Meets resolver options around (.attribute node (.spread slot location))
        (.spread slot location)
  | dynamicName (node slot : Nat) (location : Location)
    : Meets resolver options around (.attribute node (.dynamicName slot location))
        (.dynamicName slot location)
  | openEnd (node : Nat) (selfClosing : Bool)
    : Meets resolver options around (.openEnd node selfClosing) (.openEnd selfClosing)
  | slot (slot : Nat) (location : Location)
    : Meets resolver options around (.slot slot) (.child slot location)
  | closeTag {node : Nat} {name other : String} (location : Location)
    (closes
      : name = other
        ∨ resolver.resolve name = .component ∧ resolver.sameComponent name other = true)
    : Meets resolver options around (.closeTag node name location) (.closeTag other location)

/-- A token that no walk meets: an interpolated value inside a comment, or text of which nothing
is left.
-/
inductive Passed (options : ReadOptions) (around : Option Nat) : Token → Prop
  | text {raw : String} (location : Location) (nothing : survivor? options around raw = none)
    : Passed options around (.text raw location)
  | ignored (slot : Nat) : Passed options around (.ignored slot)

/-- A walk meets tokens in their order, apart from those that no walk meets. The element is the
one around what comes next.
-/
inductive Recorded (resolver : Resolver) (options : ReadOptions)
    : Option Nat → List Visit → List Token → Prop
  | start : Recorded resolver options none [] []
  | passed {around : Option Nat} {visits : List Visit} {tokens : List Token} {token : Token}
    (before : Recorded resolver options around visits tokens)
    (passed : Passed options around token)
    : Recorded resolver options around visits (tokens ++ [token])
  | met {around : Option Nat} {visits : List Visit} {tokens : List Token} {token : Token}
    (visit : Visit) (before : Recorded resolver options around visits tokens)
    (meets : Meets resolver options around visit.event token)
    : Recorded resolver options visit.around (visits ++ [visit]) (tokens ++ [token])

-----------------------------------------------------------------------------------------
-- Slots
-----------------------------------------------------------------------------------------

end Tree

/-- The slot that a walk meets, and what the slot is there. -/
def Visit.use? (visit : Visit) : Option (Nat × SlotKind) :=
  match visit.event with
  | .attribute node (.named name (.slot slot) _) => some (slot, .attribute node name)
  | .attribute node (.spread slot _) => some (slot, .spread node)
  | .attribute node (.dynamicName slot _) => some (slot, .attributeName node)
  | .slot slot => some (slot, .child visit.around)
  | _ => none

/-- The slots after it is noted what the one that a walk meets is. -/
def Visit.note (slots : List SlotKind) (visit : Visit) : List SlotKind :=
  match visit.use? with
  | some (slot, kind) => slots.set slot kind
  | none => slots

namespace Tree

/-- A walk meets the tokens so far, and of the slots it is noted what the walk has met. -/
structure Accounts (resolver : Resolver) (options : ReadOptions) (slotCount : Nat)
    (tokens : List Token) (around : Option Nat) (visits : List Visit) (slots : List SlotKind)
    : Prop where
  recorded : Recorded resolver options around visits tokens
  noted : slots = visits.foldl Visit.note (List.replicate slotCount .ignored)

namespace Accounts

variable {resolver : Resolver} {options : ReadOptions} {slotCount : Nat} {tokens : List Token}
  {around : Option Nat} {visits : List Visit} {slots : List SlotKind} {token : Token}

theorem passed (accounts : Accounts resolver options slotCount tokens around visits slots)
    (passed : Passed options around token)
    : Accounts resolver options slotCount (tokens ++ [token]) around visits slots :=
  { accounts with recorded := accounts.recorded.passed passed }

theorem met (visit : Visit)
    (accounts : Accounts resolver options slotCount tokens around visits slots)
    (meets : Meets resolver options around visit.event token)
    : Accounts resolver options slotCount (tokens ++ [token]) visit.around (visits ++ [visit])
        (Visit.note slots visit) where
  recorded := accounts.recorded.met visit meets
  noted := by
    rw [List.foldl_append, ← accounts.noted]
    rfl

/-- A walk meets a token that has no slot. -/
theorem met_slotless (visit : Visit) (slotless : visit.use? = none)
    (accounts : Accounts resolver options slotCount tokens around visits slots)
    (meets : Meets resolver options around visit.event token)
    : Accounts resolver options slotCount (tokens ++ [token]) visit.around (visits ++ [visit])
        slots := by
  have met := accounts.met visit meets
  simpa only [Visit.note, slotless] using met

end Accounts

-----------------------------------------------------------------------------------------
-- The walk over what has been read
-----------------------------------------------------------------------------------------

/-- The walk over the open elements and what is in them, the innermost element first. -/
def walkFrames : List Frame → List Visit
  | [] => []
  | frame :: outer =>
      walkFrames outer
        ++ frame.node.opening (outer.head?.map fun frame => frame.node.id)
        ++ Child.walkOf (some frame.node.id) frame.children

namespace Building

/-- The walk over the complete and the open elements. -/
def walked (building : Building) : List Visit :=
  Child.walkOf none building.roots ++ walkFrames building.frames

/-- The walk over all that has been read, up to the open tag that is being read. -/
def walk (building : Building) : List Visit :=
  building.walked
    ++ (building.current.map fun node => node.beginning building.parent?).getD []

theorem walk_idle {building : Building} (idle : building.current = none)
    : building.walk = building.walked := by
  simp only [walk, idle, Option.map_none, Option.getD_none, List.append_nil]

theorem walk_reading {building : Building} {node : Node} (reading : building.current = some node)
    : building.walk = building.walked ++ node.beginning building.parent? := by
  simp only [walk, reading, Option.map_some, Option.getD_some]

/-- A child that is added is met last. -/
theorem walked_addChild (building : Building) (child : Child)
    : (building.addChild child).walked = building.walked ++ child.walk building.parent? := by
  obtain ⟨frames, roots, current, afterVoid, nextId, slots, ties⟩ := building
  cases frames with
  | nil =>
      simp [walked, walkFrames, addChild, parent?, Child.walkOf_append, Child.walkOf_singleton]
  | cons frame outer =>
      simp [walked, walkFrames, addChild, parent?, Child.walkOf_append, Child.walkOf_singleton]

theorem slots_addChild (building : Building) (child : Child)
    : (building.addChild child).slots = building.slots := by
  obtain ⟨frames, roots, current, afterVoid, nextId, slots, ties⟩ := building
  cases frames <;> rfl

theorem parent?_addChild (building : Building) (child : Child)
    : (building.addChild child).parent? = building.parent? := by
  obtain ⟨frames, roots, current, afterVoid, nextId, slots, ties⟩ := building
  cases frames <;> rfl

end Building

end Tree

end TaggedMarkup
