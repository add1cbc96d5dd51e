import Mathlib.Data.List.Forall2
import TaggedMarkup.Proofs.Placeless
import TaggedMarkup.Proofs.Reading.Parsed
import TaggedMarkup.Proofs.Reading.Resolution

/-! The tag of a group of children may be written with the name of a component that is registered
as a fragment. Read that way, a template gives the same tree, except that its groups are
components.
-/

namespace TaggedMarkup

-----------------------------------------------------------------------------------------
-- Tokens and trees
-----------------------------------------------------------------------------------------

/-- A token wherever it stands. -/
def Token.placeless : Token → Token
  | .text raw _ => .text raw default
  | .openTag name _ => .openTag name default
  | .openEnd selfClosing => .openEnd selfClosing
  | .closeTag name _ => .closeTag name default
  | .attribute name value _ => .attribute name value default
  | .spread slot _ => .spread slot default
  | .dynamicName slot _ => .dynamicName slot default
  | .child slot _ => .child slot default
  | .ignored slot => .ignored slot

/-- The name of a tag. -/
def Token.tagName? : Token → Option String
  | .openTag name _ | .closeTag name _ => some name
  | _ => none

/-- Whether a tag of the name groups children without being a component. -/
def Resolver.isGroup (resolver : Resolver) (name : String) : Bool :=
  (Tree.resolveTag resolver name).1 == .fragment

/-- The token with the tag of a group written under another name. -/
def Token.regrouped (resolver : Resolver) (group : String) : Token → Token
  | .openTag name location =>
      .openTag (if resolver.isGroup name then group else name) location
  | .closeTag name location =>
      .closeTag (if resolver.isGroup name then group else name) location
  | token => token

/-- One node is the other, wherever they stand, except that a group is a component in it. -/
structure Node.Regroups (group : String) (node other : Node) : Prop where
  id : other.id = node.id
  name : other.name = if node.tag = .fragment then group else node.name
  tag : other.tag = if node.tag = .fragment then .component group else node.tag
  attributes : other.attributes.map Attribute.placeless = node.attributes.map Attribute.placeless
  isVoid : other.isVoid = node.isVoid
  isCustom : other.isCustom = node.isCustom
  spreads : other.spreads = node.spreads

/-- One child is the other, except that its groups are components. -/
inductive Child.Regroups (group : String) : Child → Child → Prop
  | text (text : String) : Child.Regroups group (.text text) (.text text)
  | slot (slot : Nat) : Child.Regroups group (.slot slot) (.slot slot)
  | branch {node other : Node} {children others : List Child}
    (nodes : node.Regroups group other)
    (inside : List.Forall₂ (Child.Regroups group) children others)
    : Child.Regroups group (.branch node children) (.branch other others)

variable {group : String}

namespace Node.Regroups

variable {node other : Node}

/-- A node that is no group is the same. -/
theorem placeless (nodes : node.Regroups group other) (isTag : node.tag ≠ .fragment)
    : other.placeless = node.placeless := by
  have name := nodes.name
  have tag := nodes.tag
  rw [if_neg isTag] at name tag
  simp only [Node.placeless, nodes.id, name, tag, nodes.attributes, nodes.isVoid, nodes.isCustom,
    nodes.spreads]

/-- Where nodes stand does not matter. -/
theorem elsewhere (nodes : node.Regroups group other) {node' other' : Node}
    (same : node'.placeless = node.placeless) (same' : other'.placeless = other.placeless)
    : node'.Regroups group other' := by
  simp only [Node.placeless, Node.mk.injEq] at same same'
  obtain ⟨id, name, tag, -, attributes, -, -, -, -, isVoid, isCustom, -, -, spreads⟩ := same
  obtain ⟨id', name', tag', -, attributes', -, -, -, -, isVoid', isCustom', -, -, spreads'⟩ := same'
  exact {
    id := by rw [id', id, nodes.id]
    name := by rw [name', name, tag, nodes.name]
    tag := by rw [tag', tag, nodes.tag]
    attributes := by rw [attributes', attributes, nodes.attributes]
    isVoid := by rw [isVoid', isVoid, nodes.isVoid]
    isCustom := by rw [isCustom', isCustom, nodes.isCustom]
    spreads := by rw [spreads', spreads, nodes.spreads]
  }

theorem elementName? (nodes : node.Regroups group other)
    : other.elementName? = node.elementName? := by
  have tag := nodes.tag
  cases isTag : node.tag <;> simp_all [Node.elementName?]

theorem names (nodes : node.Regroups group other) (count : Nat)
    : (other.attributes.drop count).filterMap Attribute.name?
      = (node.attributes.drop count).filterMap Attribute.name? := by
  have same := congrArg (fun attributes : List Attribute =>
    (attributes.drop count).filterMap Attribute.name?) nodes.attributes
  simpa only [← List.map_drop, List.filterMap_map, Function.comp_def, Attribute.name?_placeless]
    using same

theorem length (nodes : node.Regroups group other)
    : other.attributes.length = node.attributes.length := by
  simpa only [List.length_map] using congrArg List.length nodes.attributes

theorem withNamed (nodes : node.Regroups group other) (name : String) (value : AttributeValue)
    (location location' : Location)
    : (Tree.withNamed node name value location).Regroups group
        (Tree.withNamed other name value location') :=
  { nodes with
    attributes := by
      simp only [Tree.withNamed, List.map_append, nodes.attributes]
      rfl
    isCustom := by simp only [Tree.withNamed, nodes.isCustom, nodes.elementName?] }

theorem withSpread (nodes : node.Regroups group other) (slot : Nat)
    (location location' : Location)
    : (Tree.withSpread node slot location).Regroups group
        (Tree.withSpread other slot location') :=
  { nodes with
    attributes := by
      simp only [Tree.withSpread, List.map_append, nodes.attributes]
      rfl
    spreads := by
      have names := nodes.names 0
      simp only [List.drop_zero] at names
      simp only [Tree.withSpread, nodes.spreads, nodes.length, names] }

theorem withDynamicName (nodes : node.Regroups group other) (slot : Nat)
    (location location' : Location)
    : (Tree.withDynamicName node slot location).Regroups group
        (Tree.withDynamicName other slot location') :=
  { nodes with
    attributes := by
      simp only [Tree.withDynamicName, List.map_append, nodes.attributes]
      rfl }

theorem notedAfter (nodes : node.Regroups group other)
    : (Tree.notedAfter node).Regroups group (Tree.notedAfter other) :=
  { nodes with
    spreads := by simp only [Tree.notedAfter, nodes.spreads, nodes.names] }

end Node.Regroups

namespace Tree

variable {registry : Registry} {options : ReadOptions} {tokens : List Token}

/-- Two open elements with children so far, of which groups are components in one. -/
structure Frame.Regroups (group : String) (frame other : Frame) : Prop where
  node : frame.node.Regroups group other.node
  children : List.Forall₂ (Child.Regroups group) frame.children other.children

/-- What has been read of two templates, of which groups are components in one. -/
structure Building.Regroups (group : String) (building other : Building) : Prop where
  frames : List.Forall₂ (Frame.Regroups group) building.frames other.frames
  roots : List.Forall₂ (Child.Regroups group) building.roots other.roots
  current : Option.Rel (Node.Regroups group) building.current other.current
  afterVoid : building.afterVoid = other.afterVoid
  nextId : building.nextId = other.nextId

-----------------------------------------------------------------------------------------
-- Steps
-----------------------------------------------------------------------------------------

namespace Building.Regroups

variable {building other : Building}

theorem start (slotCount : Nat)
    : Building.Regroups group (.start slotCount) (.start slotCount) :=
  ⟨.nil, .nil, .none, rfl, rfl⟩

theorem addChild (regroups : building.Regroups group other) {child child' : Child}
    (children : child.Regroups group child')
    : (building.addChild child).Regroups group (other.addChild child') := by
  obtain ⟨frames, roots, current, afterVoid, nextId, slots, ties⟩ := building
  obtain ⟨frames', roots', current', afterVoid', nextId', slots', ties'⟩ := other
  have added {items items' : List Child} (inside : List.Forall₂ (Child.Regroups group) items items')
      : List.Forall₂ (Child.Regroups group) (items ++ [child]) (items' ++ [child']) :=
    List.rel_append inside (.cons children .nil)
  have open' := regroups.frames
  simp only at open'
  cases open' with
  | nil => exact { regroups with roots := added regroups.roots, frames := .nil }
  | cons first rest =>
      exact { regroups with frames := .cons ⟨first.node, added first.children⟩ rest }

theorem after (regroups : building.Regroups group other) (afterVoid : Bool)
    : Building.Regroups group { building with afterVoid } { other with afterVoid } :=
  { regroups with afterVoid := rfl }

theorem addText (regroups : building.Regroups group other) (options : ReadOptions)
    (raw : String)
    : (Tree.addText options building raw).Regroups group (Tree.addText options other raw) := by
  have same : building.frames.isEmpty = other.frames.isEmpty := by
    have open' := regroups.frames
    generalize building.frames = frames, other.frames = frames' at open' ⊢
    cases open' <;> rfl
  simp only [Tree.addText, same]
  split
  · exact regroups
  · split
    · exact regroups
    · exact { regroups.addChild (.text _) with afterVoid := rfl }

theorem addSlot (regroups : building.Regroups group other) (slot : Nat)
    : (Tree.addSlot building slot).Regroups group (Tree.addSlot other slot) := by
  have open' := regroups.frames
  simp only [Tree.addSlot]
  generalize building.frames = frames, other.frames = frames' at open' ⊢
  cases open' with
  | nil => exact { regroups.addChild (.slot slot) with afterVoid := rfl }
  | @cons frame frame' outer outer' first rest =>
      let noted (frame : Frame) : Frame :=
        ⟨{ frame.node with
            dynamicChildren := frame.node.dynamicChildren ++ [(frame.children.length, slot)] },
          frame.children⟩
      have regroups'
          : Building.Regroups group { building with frames := noted frame :: outer }
              { other with frames := noted frame' :: outer' } :=
        { regroups with frames := .cons ⟨{ first.node with }, first.children⟩ rest }
      exact { regroups'.addChild (.slot slot) with afterVoid := rfl }

/-- Changing the node whose open tag is being read. -/
theorem changeCurrent (regroups : building.Regroups group other) {change change' : Node → Node}
    (changes
      : ∀ node other, node.Regroups group other → (change node).Regroups group (change' other))
    : (Tree.changeCurrent building change).Regroups group
        (Tree.changeCurrent other change') := by
  have current := regroups.current
  refine { regroups with current := ?_ }
  simp only [Tree.changeCurrent]
  generalize building.current = node, other.current = node' at current ⊢
  cases current with
  | none => exact .none
  | some nodes => exact .some (changes _ _ nodes)

/-- What slots are does not matter. -/
theorem noteSlot (regroups : building.Regroups group other) (slot : Nat)
    (kind : Nat → SlotKind)
    : (Tree.noteSlot building slot kind).Regroups group (Tree.noteSlot other slot kind) := by
  simp only [Tree.noteSlot]
  split <;> split <;> exact { regroups with }

/-- What the tree depends on does not matter. -/
theorem tie (regroups : building.Regroups group other) (tied tied' : Bool) (name name' : String)
    : Building.Regroups group (if tied then building.tie name else building)
        (if tied' then other.tie name' else other) := by
  simp only [Building.tie]
  split
  · split <;> split <;> try split
    all_goals exact { regroups with }
  · split
    · split <;> exact { regroups with }
    · exact regroups

/-- The open tag of a group is that of a component in the other template. -/
theorem openTag (isGroup : registry.find? group = some .fragment)
    (regroups : building.Regroups group other) (name : String) (location location' : Location)
    : (Tree.openTag registry.resolver options building name location).Regroups group
        (Tree.openTag registry.resolver options other
          (if registry.resolver.isGroup name then group else name) location') := by
  have component : resolveTag registry.resolver group = (.component group, true) := by
    simp only [resolveTag, Registry.resolver, Registry.resolve, isGroup]
  obtain ⟨tag, tied, resolved⟩
      : ∃ tag tied, resolveTag registry.resolver name = (tag, tied) :=
    ⟨_, _, rfl⟩
  have same : registry.resolver.isGroup name = (tag == .fragment) := by
    rw [Resolver.isGroup, resolved]
  cases isTag : tag with
  | fragment =>
      simp only [Tree.openTag, resolved, same, isTag, beq_self_eq_true, if_true, component]
      refine { regroups.tie tied true _ _ with current := .some ?_, nextId := ?_, afterVoid := rfl }
      · exact ⟨regroups.nextId.symm, rfl, rfl, rfl, rfl, rfl, rfl⟩
      · exact congrArg (· + 1) regroups.nextId
  | element tag | component tag =>
      have apart
          : (Tag.element tag == .fragment) = false ∧ (Tag.component tag == .fragment) = false :=
        ⟨rfl, rfl⟩
      simp only [Tree.openTag, resolved, same, isTag, apart, Bool.false_eq_true, if_false]
      refine { regroups.tie _ _ _ _ with current := .some ?_, nextId := ?_, afterVoid := rfl }
      · exact ⟨regroups.nextId.symm, rfl, rfl, rfl, rfl, rfl, rfl⟩
      · exact congrArg (· + 1) regroups.nextId

/-- The end of an open tag. -/
theorem openEnd (regroups : building.Regroups group other) (selfClosing : Bool)
    : (Tree.openEnd building selfClosing).Regroups group
        (Tree.openEnd other selfClosing) := by
  have current := regroups.current
  simp only [Tree.openEnd]
  generalize building.current = node, other.current = node' at current ⊢
  cases current with
  | none => exact regroups
  | @some node node' nodes =>
      have noted := nodes.notedAfter
      have idle : Building.Regroups group { building with current := none }
          { other with current := none } :=
        { regroups with current := .none }
      dsimp only
      cases selfClosing with
      | true =>
          refine idle.addChild ?_
          exact .branch (noted.elsewhere rfl rfl) .nil
      | false =>
          simp only [Bool.false_eq_true, if_false]
          by_cases isVoid : (Tree.notedAfter node).isVoid = true
          · rw [if_pos isVoid, if_pos (noted.isVoid.trans isVoid)]
            refine after (idle.addChild ?_) true
            exact .branch (noted.elsewhere rfl rfl) .nil
          · rw [if_neg isVoid, if_neg (noted.isVoid ▸ isVoid)]
            exact { idle with frames := .cons ⟨noted, .nil⟩ regroups.frames }

/-- A closing tag is noted on the last child of both unless it is a group. -/
theorem closeLast {children others : List Child}
    (inside : List.Forall₂ (Child.Regroups group) children others)
    (apart
      : ∀ before node inner, children = before ++ [.branch node inner] → node.tag ≠ .fragment)
    (name : String) (location location' : Location)
    : Option.Rel (List.Forall₂ (Child.Regroups group)) (closeLast? name location children)
        (closeLast? name location' others) := by
  induction inside with
  | nil => exact .none
  | @cons child child' rest rest' first inside ih =>
      cases inside with
      | nil =>
          cases first with
          | text | slot => exact .none
          | @branch node node' inner inner' nodes within =>
              have same := nodes.name
              rw [if_neg (apart [] node inner rfl)] at same
              simp only [closeLast?]
              by_cases isName : node.name = name
              · rw [if_pos isName, if_pos (same.trans isName)]
                exact .some (.cons (.branch (nodes.elsewhere rfl rfl) within) .nil)
              · rw [if_neg isName, if_neg (same ▸ isName)]
                exact .none
      | @cons second second' rest rest' _ _ =>
          have later := ih fun before node inner isLast =>
            apart (child :: before) node inner (congrArg (child :: ·) isLast)
          rw [closeLast?_cons_cons, closeLast?_cons_cons]
          generalize closeLast? name location (second :: rest) = closed,
            closeLast? name location' (second' :: rest') = closed' at later ⊢
          cases later with
          | none => exact .none
          | some later => exact .some (.cons first later)

/-- A void element is closed in both. -/
theorem closeVoid (regroups : building.Regroups group other)
    (read : BuildingRead registry.resolver options tokens building) (name : String)
    (location location' : Location)
    : Option.Rel (Building.Regroups group) (closeVoid? building name location)
        (closeVoid? other name location') := by
  obtain ⟨frames, roots, current, afterVoid, nextId, slots, ties⟩ := building
  obtain ⟨frames', roots', current', afterVoid', nextId', slots', ties'⟩ := other
  obtain rfl : afterVoid = afterVoid' := regroups.afterVoid
  cases afterVoid with
  | false => exact .none
  | true =>
      obtain ⟨before, void, isLast, isVoid, -⟩ := read.lastVoid rfl
      have apart {children : List Child} (same : children = before ++ [.branch void []])
          (childrenRead : ChildrenRead registry.resolver options ties tokens children)
          (before' : List Child) (node : Node) (inner : List Child)
          (isLast' : children = before' ++ [.branch node inner])
          : node.tag ≠ .fragment := by
        obtain ⟨-, last⟩ := List.append_inj' (same.symm.trans isLast') rfl
        obtain ⟨rfl, rfl⟩ := Child.branch.inj (List.singleton_inj.mp last)
        have complete := childrenRead.branches ⟨void, []⟩
          (by simp [same, branchesOf_append, Child.branchesOf, Child.branches])
        have element := complete.opened.named.isVoid.symm.trans isVoid
        intro isGroup
        simp [Node.elementName?, isGroup] at element
      have inFrames := regroups.frames
      cases inFrames with
      | nil =>
          have closing := closeLast regroups.roots (apart isLast read.stack.roots) name location
            location'
          simp only [closeVoid?, if_true]
          simp only at closing
          generalize closeLast? name location roots = closed,
            closeLast? name location' roots' = closed' at closing ⊢
          cases closing with
          | none => exact .none
          | some closing => exact .some { regroups with roots := closing, afterVoid := rfl }
      | @cons frame frame' outer outer' first inside =>
          have childrenRead := (read.stack.frames frame (by simp)).children
          have closing := closeLast first.children (apart isLast childrenRead) name location
            location'
          simp only [closeVoid?, if_true]
          generalize closeLast? name location frame.children = closed,
            closeLast? name location' frame'.children = closed' at closing ⊢
          cases closing with
          | none => exact .none
          | some closing =>
              exact .some
                { regroups with frames := .cons ⟨first.node, closing⟩ inside, afterVoid := rfl }

end Building.Regroups

/-- A closing tag that belongs to a node belongs to it in the other template. -/
theorem closes_regrouped {node other : Node} (nodes : node.Regroups group other)
    {ties : List String} (named : NodeNamed registry.resolver options ties node) {name : String}
    (closing : closes registry.resolver node name = true)
    : closes registry.resolver other
        (if registry.resolver.isGroup name then group else name) = true := by
  by_cases isFragment : node.tag = .fragment
  · obtain rfl : node.name = name := by
      simpa [closes, Node.isComponent, isFragment] using closing
    have grouped : registry.resolver.isGroup node.name = true := by
      rw [Resolver.isGroup, ← named.tag, isFragment]
      rfl
    simp [closes, nodes.name, isFragment, grouped]
  · have apart : registry.resolver.isGroup name = false := by
      by_cases same : node.name = name
      · rw [Resolver.isGroup, ← same, ← named.tag]
        simpa using isFragment
      · have component
            : node.isComponent = true ∧ registry.sameComponent node.name name = true := by
          simpa [closes, same, Registry.resolver] using closing
        obtain ⟨one, -, found⟩ := sameComponent_found component.2 same
        simp only [Resolver.isGroup, resolveTag, Registry.resolver, Registry.resolve, found]
        cases one <;> rfl
    simpa [closes, apart, nodes.name, nodes.tag, isFragment, Node.isComponent] using closing

/-- The name of a void element is not that of a group. -/
theorem not_group_of_void {void : Node} {ties : List String}
    (named : NodeNamed registry.resolver options ties void) (isVoid : void.isVoid = true)
    : registry.resolver.isGroup void.name = false := by
  have element := named.isVoid.symm.trans isVoid
  rw [Resolver.isGroup, ← named.tag]
  cases tag : void.tag <;> simp_all [Node.elementName?]

/-- A closing tag of a void element that does not belong to a node does not belong to it in the
other template.
-/
theorem not_closes_regrouped (isGroup : registry.find? group = some .fragment)
    {node other void : Node} (nodes : node.Regroups group other) {ties : List String}
    (named : NodeNamed registry.resolver options ties void) (isVoid : void.isVoid = true)
    (unused : void.name ≠ group) (apart : closes registry.resolver node void.name = false)
    : closes registry.resolver other void.name = false := by
  by_cases isFragment : node.tag = .fragment
  · have differs : registry.sameComponent group void.name = false := by
      cases same : registry.sameComponent group void.name with
      | false => rfl
      | true =>
          obtain ⟨one, found, found'⟩ := sameComponent_found same unused.symm
          obtain rfl := Option.some.inj (isGroup.symm.trans found)
          have component := (isComponent_iff named).mpr ⟨.fragment, found', by simp⟩
          cases (not_component_of_void named isVoid).symm.trans component
    simp [closes, nodes.name, isFragment, unused.symm, Registry.resolver, differs]
  · simpa [closes, nodes.name, nodes.tag, isFragment, Node.isComponent] using apart

namespace Building.Regroups

variable {building other : Building}

/-- A closing tag that is read is read in the other template. -/
theorem closeTag (isGroup : registry.find? group = some .fragment)
    (regroups : building.Regroups group other)
    (read : BuildingRead registry.resolver options tokens building) {name : String}
    (unused : name ≠ group) {location : Location} (location' : Location) {next : Building}
    (closing : Tree.closeTag registry.resolver building name location = .ok next)
    : ∃ next',
        Tree.closeTag registry.resolver other
            (if registry.resolver.isGroup name then group else name) location'
          = .ok next'
        ∧ next.Regroups group next' := by
  have voidClosed (found : closeVoid? building name location = some next)
      : registry.resolver.isGroup name = false
        ∧ (∀ frame frame' : Frame,
            frame.Regroups group frame'
            → closes registry.resolver frame.node name = false
            → closes registry.resolver frame'.node name = false)
        ∧ ∃ next', closeVoid? other name location' = some next' ∧ next.Regroups group next' := by
    obtain ⟨void, named, isVoid, rfl⟩ := closeVoid_named read (.of_closeVoid? found)
    have closed := regroups.closeVoid read void.name location location'
    rw [found] at closed
    refine ⟨not_group_of_void named isVoid, ?_, ?_⟩
    · intro frame frame' frames apart
      exact not_closes_regrouped isGroup frames.node named isVoid unused apart
    · generalize closeVoid? other void.name location' = found' at closed ⊢
      cases closed with
      | some closed => exact ⟨_, rfl, closed⟩
  obtain ⟨frames, roots, current, afterVoid, nextId, slots, ties⟩ := building
  obtain ⟨frames', roots', current', afterVoid', nextId', slots', ties'⟩ := other
  have inFrames := regroups.frames
  simp only at inFrames
  cases inFrames with
  | nil =>
      simp only [Tree.closeTag] at closing ⊢
      split at closing
      next closed found =>
          obtain rfl := Except.ok.inj closing
          obtain ⟨apart, -, next', found', regroups'⟩ := voidClosed found
          exact ⟨next', by simp only [apart, Bool.false_eq_true, if_false, found'], regroups'⟩
      next => cases closing
  | @cons frame frame' outer outer' first inside =>
      have named := (read.stack.frames frame (by simp)).opened.named
      simp only [Tree.closeTag] at closing ⊢
      split at closing
      next isClosing =>
          obtain rfl := Except.ok.inj closing
          have outside
              : Building.Regroups group ⟨outer, roots, current, afterVoid, nextId, slots, ties⟩
                  ⟨outer', roots', current', afterVoid', nextId', slots', ties'⟩ :=
            { regroups with frames := inside }
          refine ⟨_, if_pos (closes_regrouped first.node named isClosing), after ?_ false⟩
          exact outside.addChild (.branch (first.node.elsewhere rfl rfl) first.children)
      next notClosing =>
          split at closing
          next closed found =>
              obtain rfl := Except.ok.inj closing
              obtain ⟨apart, frames, next', found', regroups'⟩ := voidClosed found
              have apart' := frames frame frame' first (by simpa using notClosing)
              refine ⟨next', ?_, regroups'⟩
              simp only [apart, Bool.false_eq_true, if_false, apart', found']
          next => cases closing

-----------------------------------------------------------------------------------------
-- Tokens
-----------------------------------------------------------------------------------------

/-- A token that is read is read in the other template, where groups have another name. -/
theorem step (isGroup : registry.find? group = some .fragment)
    (regroups : building.Regroups group other)
    (read : BuildingRead registry.resolver options tokens building) {token token' : Token}
    (unused : token.tagName? ≠ some group)
    (same : token'.placeless = (token.regrouped registry.resolver group).placeless)
    {next : Building} (stepped : Tree.step registry.resolver options building token = .ok next)
    : ∃ next',
        Tree.step registry.resolver options other token' = .ok next'
        ∧ next.Regroups group next' := by
  cases token with
  | text raw location =>
      cases token' <;> simp only [Token.placeless, Token.regrouped, reduceCtorEq] at same
      obtain ⟨rfl, -⟩ := Token.text.inj same
      obtain rfl := Except.ok.inj stepped
      exact ⟨_, rfl, regroups.addText options _⟩
  | openTag name location =>
      cases token' <;> simp only [Token.placeless, Token.regrouped, reduceCtorEq] at same
      obtain ⟨rfl, -⟩ := Token.openTag.inj same
      obtain rfl := Except.ok.inj stepped
      exact ⟨_, rfl, regroups.openTag isGroup name location _⟩
  | openEnd selfClosing =>
      cases token' <;> simp only [Token.placeless, Token.regrouped, reduceCtorEq] at same
      obtain rfl := Token.openEnd.inj same
      obtain rfl := Except.ok.inj stepped
      exact ⟨_, rfl, regroups.openEnd _⟩
  | closeTag name location =>
      cases token' <;> simp only [Token.placeless, Token.regrouped, reduceCtorEq] at same
      obtain ⟨rfl, -⟩ := Token.closeTag.inj same
      exact regroups.closeTag isGroup read (fun same => unused (congrArg some same)) _ stepped
  | «attribute» name value location =>
      cases token' <;> simp only [Token.placeless, Token.regrouped, reduceCtorEq] at same
      obtain ⟨rfl, rfl, -⟩ := Token.attribute.inj same.symm
      cases value with
      | literal | bare =>
          obtain rfl := Except.ok.inj stepped
          exact ⟨_, rfl, regroups.changeCurrent fun _ _ nodes => nodes.withNamed ..⟩
      | slot index =>
          obtain rfl := Except.ok.inj stepped
          exact ⟨_, rfl, (regroups.noteSlot index fun id => .attribute id name).changeCurrent
            fun _ _ nodes => nodes.withNamed ..⟩
  | spread slot location =>
      cases token' <;> simp only [Token.placeless, Token.regrouped, reduceCtorEq] at same
      obtain ⟨rfl, -⟩ := Token.spread.inj same
      obtain rfl := Except.ok.inj stepped
      exact ⟨_, rfl, (regroups.noteSlot _ .spread).changeCurrent
        fun _ _ nodes => nodes.withSpread ..⟩
  | dynamicName slot location =>
      cases token' <;> simp only [Token.placeless, Token.regrouped, reduceCtorEq] at same
      obtain ⟨rfl, -⟩ := Token.dynamicName.inj same
      obtain rfl := Except.ok.inj stepped
      exact ⟨_, rfl, (regroups.noteSlot _ .attributeName).changeCurrent
        fun _ _ nodes => nodes.withDynamicName ..⟩
  | child slot location =>
      cases token' <;> simp only [Token.placeless, Token.regrouped, reduceCtorEq] at same
      obtain ⟨rfl, -⟩ := Token.child.inj same
      obtain rfl := Except.ok.inj stepped
      exact ⟨_, rfl, regroups.addSlot _⟩
  | ignored slot =>
      cases token' <;> simp only [Token.placeless, Token.regrouped, reduceCtorEq] at same
      obtain rfl := Except.ok.inj stepped
      exact ⟨_, rfl, regroups⟩

/-- Tokens that are read are read in the other template, by induction on them. -/
theorem steps (isGroup : registry.find? group = some .fragment)
    (regroups : building.Regroups group other)
    (read : BuildingRead registry.resolver options tokens building) {rest rest' : List Token}
    {inTag : Bool} (member : ∀ token ∈ rest, token ∈ tokens)
    (unused : ∀ token ∈ rest, token.tagName? ≠ some group)
    (order : rest.foldlM Token.after? building.current.isSome = some inTag)
    (same
      : rest'.map Token.placeless
        = rest.map fun token => (token.regrouped registry.resolver group).placeless)
    {last : Building}
    (stepped : rest.foldlM (Tree.step registry.resolver options) building = .ok last)
    : ∃ last',
        rest'.foldlM (Tree.step registry.resolver options) other = .ok last'
        ∧ last.Regroups group last' := by
  induction rest generalizing building other rest' with
  | nil =>
      obtain rfl := Except.ok.inj stepped
      obtain rfl := List.map_eq_nil_iff.mp same
      exact ⟨other, rfl, regroups⟩
  | cons token rest ih =>
      obtain ⟨token', rest', rfl, sameToken, sameRest⟩ := List.map_eq_cons_iff.mp same
      obtain ⟨inTag', first, later⟩ := Option.bind_eq_some_iff.mp order
      obtain ⟨reached, one, stepped⟩ := steps_cons stepped
      obtain ⟨kept, inside⟩ := read.step (member token (by simp)) first one
      obtain ⟨reached', one', regroups'⟩ :=
        regroups.step isGroup read (unused token (by simp)) sameToken one
      have all := ih regroups' kept (fun other isLater => member other (by simp [isLater]))
        (fun other isLater => unused other (by simp [isLater])) (inside ▸ later) sameRest stepped
      simpa only [List.foldlM_cons, one', bind, Except.bind] using all

end Building.Regroups

end Tree

-----------------------------------------------------------------------------------------
-- Whole templates
-----------------------------------------------------------------------------------------

/-- Two templates are the same, except that the groups of one are written in the other with a
name of their own, which is registered as a fragment.
-/
structure Registry.Regroups (registry : Registry) (group : String)
    (fragments others : List String)
    : Prop where
  isGroup : registry.find? group = some .fragment
  unused : ∀ token ∈ (Token.scan fragments).tokens, token.tagName? ≠ some group
  count : others.length = fragments.length
  scanned : (Token.scan others).result = .ok ()
  tokens
    : (Token.scan others).tokens.map Token.placeless
      = (Token.scan fragments).tokens.map fun token =>
          (token.regrouped registry.resolver group).placeless

end TaggedMarkup
