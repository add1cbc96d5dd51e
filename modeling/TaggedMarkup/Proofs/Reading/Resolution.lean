import TaggedMarkup.Registry
import TaggedMarkup.Proofs.Reading.Parsed

/-! A template that was read with one registry is read again with a later one. As long as the
names that its tree is tied to mean the same, every open tag means the same. Only a closing
tag can be refused now: one that names its component by another registered name.
-/

namespace TaggedMarkup

/-- Only names with an initial capital are registered. -/
def Registry.Capital (registry : Registry) : Prop :=
  ∀ name component,
    registry.find? name = some component → Html.startsCapital name = true

/-- Two registries give some names the same meaning. -/
structure Registry.Agree (old now : Registry) (ties : List String) : Prop where
  oldCapital : old.Capital
  nowCapital : now.Capital
  same : ∀ name ∈ ties, now.find? name = old.find? name

namespace Tree

variable {old now : Registry} {ties : List String} {options : ReadOptions}
  {tokens : List Token}

-----------------------------------------------------------------------------------------
-- Names
-----------------------------------------------------------------------------------------

/-- A name of a tag means the same when the tree is tied to it or need not be. -/
theorem find?_same (agree : old.Agree now ties) {name : String}
    (tied : (resolveTag old.resolver name).2 = true → name ∈ ties)
    : now.find? name = old.find? name := by
  by_cases isTied : name ∈ ties
  · exact agree.same name isTied
  · cases found : old.find? name with
    | some component =>
        have needed : (resolveTag old.resolver name).2 = true := by
          simp only [resolveTag, Registry.resolver, Registry.resolve, found]
          cases component <;> rfl
        exact absurd (tied needed) isTied
    | none =>
        cases foundNow : now.find? name with
        | none => rfl
        | some component =>
            have capital := agree.nowCapital name component foundNow
            have needed : (resolveTag old.resolver name).2 = true := by
              simp only [resolveTag, Registry.resolver, Registry.resolve, found, capital]
              split <;> rfl
            exact absurd (tied needed) isTied

/-- A name that means the same gives a node the same tag. -/
theorem resolveTag_same {name : String} (same : now.find? name = old.find? name)
    : resolveTag now.resolver name = resolveTag old.resolver name := by
  simp only [resolveTag, Registry.resolver, Registry.resolve, same]

/-- A component that two names stand for is registered under both. -/
theorem sameComponent_found {registry : Registry} {first second : String}
    (same : registry.sameComponent first second = true) (differs : first ≠ second)
    : ∃ component,
        registry.find? first = some component ∧ registry.find? second = some component := by
  simp only [Registry.sameComponent] at same
  split at same
  next one other found found' =>
      obtain rfl : one = other := by simpa using same
      exact ⟨one, found, found'⟩
  next => exact absurd (by simpa using same) differs

/-- A node is a component exactly when its name is registered for one that is no alias. -/
theorem isComponent_iff {registry : Registry} {node : Node}
    (named : NodeNamed registry.resolver options ties node)
    : node.isComponent = true
      ↔ ∃ component,
          registry.find? node.name = some component ∧ ∀ tag, component ≠ .alias tag := by
  simp only [Node.isComponent, named.tag, resolveTag, Registry.resolver, Registry.resolve]
  cases found : registry.find? node.name with
  | none =>
      by_cases isFragment : node.name = Scanner.fragmentName <;> simp [isFragment]
  | some component => cases component <;> simp

/-- A node is read as a component under its own name, which is registered. -/
theorem component_found {registry : Registry} {node : Node}
    (named : NodeNamed registry.resolver options ties node) {name : String}
    (isComponent : node.tag = .component name)
    : name = node.name ∧ (registry.find? name).isSome = true := by
  have tag := named.tag
  simp only [isComponent, resolveTag, Registry.resolver, Registry.resolve] at tag
  cases found : registry.find? node.name with
  | none =>
      simp only [found] at tag
      split at tag <;> cases tag
  | some component =>
      cases component <;> simp_all

theorem not_component_of_void {resolver : Resolver} {node : Node}
    (named : NodeNamed resolver options ties node) (isVoid : node.isVoid = true)
    : node.isComponent = false := by
  have element := named.isVoid.symm.trans isVoid
  simp only [Node.elementName?, Node.isComponent] at element ⊢
  cases tag : node.tag <;> simp_all

/-- A closing tag that belongs to a component is not that of a void element, whose name the
tree would be tied to if it were registered.
-/
theorem closing_apart (agree : old.Agree now ties) {node void : Node}
    (named : NodeNamed old.resolver options ties node)
    (voidNamed : NodeNamed old.resolver options ties void) (isVoid : void.isVoid = true)
    (closing
      : closes old.resolver node void.name = true ∨ closes now.resolver node void.name = true)
    : node.name = void.name := by
  by_cases differs : node.name = void.name
  · exact differs
  · exfalso
    have sameNode := find?_same agree named.tied
    have sameVoid := find?_same agree voidNamed.tied
    have component
        : node.isComponent = true ∧ old.sameComponent node.name void.name = true := by
      simp only [closes, Registry.resolver, Registry.sameComponent, sameNode, sameVoid] at closing
      simpa [differs, Registry.sameComponent] using closing
    obtain ⟨one, found, notAlias⟩ := (isComponent_iff named).mp component.1
    obtain ⟨other, found', foundVoid⟩ := sameComponent_found component.2 differs
    obtain rfl := Option.some.inj (found.symm.trans found')
    have isComponent := (isComponent_iff voidNamed).mpr ⟨one, foundVoid, notAlias⟩
    cases (not_component_of_void voidNamed isVoid).symm.trans isComponent

-----------------------------------------------------------------------------------------
-- Complete components stay
-----------------------------------------------------------------------------------------

/-- The complete nodes of a building, wherever they are. -/
def Building.complete (building : Building) : List Branch :=
  Child.branchesOf building.roots
  ++ building.frames.flatMap fun frame => Child.branchesOf frame.children

/-- An added child is complete, and so is what was before. -/
theorem Building.mem_complete_addChild {building : Building} {child : Child} {branch : Branch}
    (member : branch ∈ building.complete ∨ branch ∈ child.branches)
    : branch ∈ (building.addChild child).complete := by
  obtain ⟨frames, roots, current, afterVoid, nextId, slots, ties⟩ := building
  cases frames <;>
    simp [Building.complete, Building.addChild, branchesOf_append, Child.branchesOf]
      at member ⊢ <;>
    grind

/-- A closing tag of a void element leaves the components among the children as they are. -/
theorem mem_closeLast {resolver : Resolver} {name : String} {location : Location}
    {children closed : List Child} (read : ChildrenRead resolver options ties tokens children)
    (last
      : ∃ before node,
          children = before ++ [.branch node []] ∧ node.isVoid = true ∧ node.closed = none)
    (closes : closeLast? name location children = some closed) {branch : Branch}
    (member : branch ∈ Child.branchesOf children) (component : branch.node.isComponent = true)
    : branch ∈ Child.branchesOf closed := by
  obtain ⟨before, node, rfl, isVoid, -⟩ := last
  obtain ⟨before', node', inside, same, rfl, -⟩ := closeLast?_eq closes
  obtain ⟨rfl, isLast⟩ := List.append_inj' same rfl
  obtain ⟨rfl, rfl⟩ := Child.branch.inj (List.singleton_inj.mp isLast)
  have complete := read.branches ⟨node, []⟩
    (by simp [branchesOf_append, Child.branchesOf, Child.branches])
  have notComponent := not_component_of_void complete.opened.named isVoid
  simp only [branchesOf_append, Child.branchesOf, Child.branches, List.append_nil,
    List.mem_append, List.mem_singleton] at member ⊢
  rcases member with early | rfl
  · exact .inl early
  · cases notComponent.symm.trans component

/-- A closing tag of a void element leaves the complete components as they are. -/
theorem mem_closeVoid {resolver : Resolver} {building closed : Building} {name : String}
    {location : Location} (read : BuildingRead resolver options tokens building)
    (closing : VoidClosed name location building closed) {branch : Branch}
    (member : branch ∈ building.complete) (component : branch.node.isComponent = true)
    : branch ∈ closed.complete := by
  obtain ⟨frames, roots, current, afterVoid, nextId, slots, buildingTies⟩ := building
  cases closing with
  | atRoot after isRoot found =>
      obtain rfl : frames = [] := isRoot
      simp only [Building.complete, List.flatMap_nil, List.append_nil] at member ⊢
      exact mem_closeLast read.stack.roots (read.lastVoid after) found member component
  | @inside frame outer _ after isInside found =>
      obtain rfl : frames = frame :: outer := isInside
      have inner := (read.stack.frames frame (by simp)).children
      simp only [Building.complete, List.flatMap_cons, List.mem_append] at member ⊢
      rcases member with atRoot | here | outside
      · exact .inl atRoot
      · exact .inr (.inl (mem_closeLast inner (read.lastVoid after) found here component))
      · exact .inr (.inr outside)

/-- The innermost open element and what is in it are complete when it is closed. -/
theorem mem_closeFrame {building : Building} {frame : Frame} {outer : List Frame}
    (frames : building.frames = frame :: outer) (node : Node) {branch : Branch}
    (member : branch ∈ building.complete ∨ branch = ⟨node, frame.children⟩)
    : branch
      ∈ (({ building with frames := outer } : Building).addChild
          (.branch node frame.children)).complete := by
  apply Building.mem_complete_addChild
  simp only [Building.complete, frames, List.flatMap_cons, List.mem_append, Child.branches,
    List.mem_cons] at member ⊢
  grind

/-- A complete component stays as it is when a token is read. -/
theorem mem_complete_step {resolver : Resolver} {building next : Building}
    (read : BuildingRead resolver options tokens building) {token : Token}
    (stepped : step resolver options building token = .ok next) {branch : Branch}
    (member : branch ∈ building.complete) (component : branch.node.isComponent = true)
    : branch ∈ next.complete := by
  cases token with
  | text raw location =>
      obtain rfl := Except.ok.inj stepped
      simp only [addText]
      split
      · exact member
      · split
        · exact member
        · exact Building.mem_complete_addChild (.inl member)
  | openTag name location =>
      obtain rfl := Except.ok.inj stepped
      simp only [openTag, Building.tie]
      split
      · split <;> exact member
      · exact member
  | openEnd selfClosing =>
      obtain rfl := Except.ok.inj stepped
      simp only [openEnd]
      split
      · exact member
      · split
        · exact Building.mem_complete_addChild (.inl member)
        · split
          · exact Building.mem_complete_addChild (.inl member)
          · exact member
  | closeTag name location =>
      cases TagClosed.of_closeTag stepped with
      | frame frames => exact mem_closeFrame frames _ (.inl member)
      | void closing => exact mem_closeVoid read closing member component
  | «attribute» name value location =>
      cases value <;> obtain rfl := Except.ok.inj stepped
      · exact member
      · exact member
      · simp only [changeCurrent, noteSlot]
        split <;> exact member
  | spread slot location =>
      obtain rfl := Except.ok.inj stepped
      simp only [changeCurrent, noteSlot]
      split <;> exact member
  | dynamicName slot location =>
      obtain rfl := Except.ok.inj stepped
      simp only [changeCurrent, noteSlot]
      split <;> exact member
  | child slot location =>
      obtain rfl := Except.ok.inj stepped
      simp only [addSlot]
      refine Building.mem_complete_addChild (.inl ?_)
      split
      · exact member
      next frame outer frames =>
          simpa only [Building.complete, frames, List.flatMap_cons] using member
  | ignored slot =>
      obtain rfl := Except.ok.inj stepped
      exact member

/-- A complete component stays as it is, by induction on the tokens that are read. -/
theorem mem_complete_steps {resolver : Resolver} {building last : Building}
    {rest : List Token} {inTag : Bool}
    (read : BuildingRead resolver options tokens building)
    (member : ∀ token ∈ rest, token ∈ tokens)
    (order : rest.foldlM Token.after? building.current.isSome = some inTag)
    (stepped : rest.foldlM (step resolver options) building = .ok last) {branch : Branch}
    (complete : branch ∈ building.complete) (component : branch.node.isComponent = true)
    : branch ∈ last.complete := by
  induction rest generalizing building with
  | nil =>
      obtain rfl := Except.ok.inj stepped
      exact complete
  | cons token rest ih =>
      obtain ⟨inTag', first, later⟩ := Option.bind_eq_some_iff.mp order
      obtain ⟨reached, one, stepped⟩ := steps_cons stepped
      obtain ⟨kept, same⟩ := read.step (member token (by simp)) first one
      exact ih kept (fun other isLater => member other (by simp [isLater])) (same ▸ later)
        stepped (mem_complete_step read one complete component)

theorem ties_step {resolver : Resolver} {building next : Building} {token : Token}
    (stepped : step resolver options building token = .ok next)
    : next.ties = building.ties
      ∨ ∃ name location,
          token = .openTag name location
          ∧ next.ties
            = (if (resolveTag resolver name).2 then building.tie name else building).ties := by
  cases token with
  | openTag name location =>
      obtain rfl := Except.ok.inj stepped
      exact .inr ⟨name, location, rfl, rfl⟩
  | text raw location =>
      obtain rfl := Except.ok.inj stepped
      simp only [addText]
      left
      split
      · rfl
      · split <;> simp [Building.addChild_apart]
  | openEnd selfClosing =>
      obtain rfl := Except.ok.inj stepped
      simp only [openEnd]
      left
      split
      · rfl
      · split
        · simp [Building.addChild_apart]
        · split <;> simp [Building.addChild_apart]
  | closeTag name location =>
      left
      cases TagClosed.of_closeTag stepped with
      | frame => simp [Building.addChild_apart]
      | void closing => cases closing <;> rfl
  | «attribute» name value location =>
      left
      cases value <;> obtain rfl := Except.ok.inj stepped
      · rfl
      · rfl
      · simp only [changeCurrent, noteSlot]
        split <;> rfl
  | spread slot location | dynamicName slot location =>
      left
      obtain rfl := Except.ok.inj stepped
      simp only [changeCurrent, noteSlot]
      split <;> rfl
  | child slot location =>
      left
      obtain rfl := Except.ok.inj stepped
      simp only [addSlot, Building.setSlot, Building.addChild_apart]
      split <;> rfl
  | ignored slot =>
      obtain rfl := Except.ok.inj stepped
      exact .inl rfl

theorem mem_ties_step {resolver : Resolver} {building next : Building} {token : Token}
    (stepped : step resolver options building token = .ok next) {name : String}
    (tied : name ∈ building.ties)
    : name ∈ next.ties := by
  rcases ties_step stepped with same | ⟨other, location, -, same⟩
  · exact same ▸ tied
  · rw [same]
    split
    · simp only [Building.tie]
      split
      · exact tied
      · simp [tied]
    · exact tied

/-- The ties of a building only grow, by induction on the tokens that are read. -/
theorem mem_ties_steps {resolver : Resolver} {building last : Building} {rest : List Token}
    (stepped : rest.foldlM (step resolver options) building = .ok last) {name : String}
    (tied : name ∈ building.ties)
    : name ∈ last.ties := by
  induction rest generalizing building with
  | nil =>
      obtain rfl := Except.ok.inj stepped
      exact tied
  | cons token rest ih =>
      obtain ⟨reached, one, stepped⟩ := steps_cons stepped
      exact ih stepped (mem_ties_step one tied)

-----------------------------------------------------------------------------------------
-- Reading again
-----------------------------------------------------------------------------------------

/-- A closing tag of one of the nodes does not match it any more, which is the failure. -/
def Refused (registry : Registry) (tokens : List Token) (branches : List Branch)
    (error : Error)
    : Prop :=
  ∃ branch ∈ branches,
    ∃ name location,
      branch.node.isComponent = true
      ∧ branch.node.closed = some location
      ∧ .closeTag name location ∈ tokens
      ∧ closes registry.resolver branch.node name = false
      ∧ error = .mismatchedClosingTag branch.node.name name location

/-- A name that the tree is tied to after an open tag means the same. -/
theorem openTag_again {building : Building} {name : String} {location : Location}
    (agree : old.Agree now ties)
    (subset : ∀ tie ∈ (openTag old.resolver options building name location).ties, tie ∈ ties)
    : openTag now.resolver options building name location
      = openTag old.resolver options building name location := by
  have tied : (resolveTag old.resolver name).2 = true → name ∈ ties := by
    intro isTied
    apply subset name
    simp only [openTag, isTied, if_true]
    exact BuildingRead.mem_tie building name
  simp only [openTag, resolveTag_same (find?_same agree tied)]

/-- A void element that a closing tag belongs to has its name and has been read. -/
theorem closeVoid_named {resolver : Resolver} {building closed : Building} {name : String}
    {location : Location} (read : BuildingRead resolver options tokens building)
    (closing : VoidClosed name location building closed)
    : ∃ node,
        NodeNamed resolver options building.ties node
        ∧ node.isVoid = true
        ∧ node.name = name := by
  obtain ⟨frames, roots, current, afterVoid, nextId, slots, buildingTies⟩ := building
  have named {children closedChildren : List Child}
      (childrenRead : ChildrenRead resolver options buildingTies tokens children)
      (last
        : ∃ before node,
            children = before ++ [.branch node []] ∧ node.isVoid = true ∧ node.closed = none)
      (found : closeLast? name location children = some closedChildren)
      : ∃ node,
          NodeNamed resolver options buildingTies node
          ∧ node.isVoid = true
          ∧ node.name = name := by
    obtain ⟨before, node, rfl, isVoid, -⟩ := last
    obtain ⟨before', node', inside, same, -, isName⟩ := closeLast?_eq found
    obtain ⟨rfl, isLast⟩ := List.append_inj' same rfl
    obtain ⟨rfl, rfl⟩ := Child.branch.inj (List.singleton_inj.mp isLast)
    have complete := childrenRead.branches ⟨node, []⟩
      (by simp [branchesOf_append, Child.branchesOf, Child.branches])
    exact ⟨node, complete.opened.named, isVoid, isName⟩
  cases closing with
  | atRoot after isRoot found =>
      obtain rfl : frames = [] := isRoot
      exact named read.stack.roots (read.lastVoid after) found
  | @inside frame outer _ after isInside found =>
      obtain rfl : frames = frame :: outer := isInside
      exact named (read.stack.frames frame (by simp)).children (read.lastVoid after) found

/-- A token is read as before, unless it is a closing tag that does not match any more. -/
theorem step_again {building next : Building} {token : Token} (agree : old.Agree now ties)
    (read : BuildingRead old.resolver options tokens building)
    (subset : ∀ tie ∈ next.ties, tie ∈ ties) (member : token ∈ tokens)
    (stepped : step old.resolver options building token = .ok next)
    : step now.resolver options building token = .ok next
      ∨ ∃ error,
          step now.resolver options building token = .error error
          ∧ Refused now tokens next.complete error := by
  have tiesKept : ∀ tie ∈ building.ties, tie ∈ ties :=
    fun tie tied => subset tie (mem_ties_step stepped tied)
  cases token with
  | openTag name location =>
      obtain rfl := Except.ok.inj stepped
      exact .inl (congrArg Except.ok (openTag_again agree subset))
  | closeTag name location =>
      simp only [step, closeTag] at stepped ⊢
      cases frames : building.frames with
      | nil =>
          simp only [frames] at stepped
          exact .inl stepped
      | cons frame outer =>
          simp only [frames] at stepped ⊢
          have named := (read.stack.frames frame (by simp [frames])).opened.named.mono tiesKept
          cases matched : closes old.resolver frame.node name with
          | true =>
              simp only [matched, if_true] at stepped
              obtain rfl := Except.ok.inj stepped
              cases matchedNow : closes now.resolver frame.node name with
              | true => exact .inl (by simp)
              | false =>
                  have differs : frame.node.name ≠ name := by
                    intro same
                    simp [closes, same] at matchedNow
                  have component : frame.node.isComponent = true := by
                    simp only [closes, Bool.or_eq_true, beq_iff_eq, differs, false_or,
                      Bool.and_eq_true] at matched
                    exact matched.1
                  have noVoid : closeVoid? building name location = none := by
                    cases voidClosing : closeVoid? building name location with
                    | none => rfl
                    | some closed =>
                        obtain ⟨void, voidNamed, isVoid, rfl⟩ :=
                          closeVoid_named read (.of_closeVoid? voidClosing)
                        exact absurd
                          (closing_apart agree named (voidNamed.mono tiesKept) isVoid
                            (.inl matched))
                          differs
                  refine .inr ⟨.mismatchedClosingTag frame.node.name name location, ?_, ?_⟩
                  · simp only [Bool.false_eq_true, if_false, noVoid]
                  exact ⟨_, mem_closeFrame frames _ (.inr rfl), name, location, component, rfl,
                    member, matchedNow, rfl⟩
          | false =>
              simp only [matched, Bool.false_eq_true, if_false] at stepped
              cases voidClosing : closeVoid? building name location with
              | none => simp [voidClosing] at stepped
              | some closed =>
                  simp only [voidClosing] at stepped
                  obtain rfl := Except.ok.inj stepped
                  have notNow : closes now.resolver frame.node name = false := by
                    obtain ⟨void, voidNamed, isVoid, rfl⟩ :=
                      closeVoid_named read (.of_closeVoid? voidClosing)
                    cases matchedNow : closes now.resolver frame.node void.name with
                    | false => rfl
                    | true =>
                        have same := closing_apart agree named (voidNamed.mono tiesKept) isVoid
                          (.inr matchedNow)
                        simp [closes, same] at matched
                  exact .inl (by simp [notNow])
  | «attribute» name value location => cases value <;> exact .inl stepped
  | _ => exact .inl stepped

/-- Tokens are read as before, unless one is a closing tag that does not match any more, by
induction on them. What is complete when it fails is complete in the end.
-/
theorem steps_again {building last : Building} {rest : List Token}
    {inTag : Bool} (agree : old.Agree now last.ties)
    (read : BuildingRead old.resolver options tokens building)
    (member : ∀ token ∈ rest, token ∈ tokens)
    (order : rest.foldlM Token.after? building.current.isSome = some inTag)
    (stepped : rest.foldlM (step old.resolver options) building = .ok last)
    : rest.foldlM (step now.resolver options) building = .ok last
      ∨ ∃ error,
          rest.foldlM (step now.resolver options) building = .error error
          ∧ Refused now tokens last.complete error := by
  induction rest generalizing building with
  | nil => exact .inl stepped
  | cons token rest ih =>
      obtain ⟨inTag', first, later⟩ := Option.bind_eq_some_iff.mp order
      obtain ⟨reached, one, stepped⟩ := steps_cons stepped
      have isToken := member token (by simp)
      obtain ⟨kept, same⟩ := read.step isToken first one
      have members : ∀ other ∈ rest, other ∈ tokens :=
        fun other isLater => member other (by simp [isLater])
      simp only [List.foldlM_cons, bind, Except.bind]
      rcases step_again agree read (fun tie tied => mem_ties_steps stepped tied) isToken one
        with again | ⟨error, failed, branch, complete, refused⟩
      · simp only [again]
        exact ih kept members (same ▸ later) stepped
      · simp only [failed]
        obtain ⟨name, location, component, facts⟩ := refused
        have stays := mem_complete_steps kept members (same ▸ later) stepped complete component
        exact .inr ⟨error, rfl, branch, stays, name, location, component, facts⟩

-----------------------------------------------------------------------------------------
-- Whole templates
-----------------------------------------------------------------------------------------

/-- Every closing tag of the template still matches the node that it closes. -/
def Matches (registry : Registry) (fragments : List String) (tree : Tree) : Prop :=
  ∀ branch ∈ tree.branches,
    ∀ name location,
      branch.node.closed = some location
      → .closeTag name location ∈ (Token.scan fragments).tokens
      → closes registry.resolver branch.node name = true

/-- Whether a token matches a node, unless it is not the closing tag of it. -/
def admits (registry : Registry) (node : Node) : Token → Bool
  | .closeTag name location =>
      node.closed != some location || closes registry.resolver node name
  | _ => true

instance (registry : Registry) (fragments : List String) (tree : Tree)
    : Decidable (tree.Matches registry fragments) :=
  decidable_of_iff
    (∀ branch ∈ tree.branches,
      ∀ token ∈ (Token.scan fragments).tokens, admits registry branch.node token = true)
    (by
      refine ⟨?_, ?_⟩
      · intro holds branch member name location isClosed isToken
        simpa [admits, isClosed] using holds branch member _ isToken
      · intro holds branch member token isToken
        cases token with
        | closeTag name location =>
            have closing := holds branch member name location
            simp only [admits, Bool.or_eq_true, bne_iff_ne, ne_eq]
            by_cases isClosed : branch.node.closed = some location
            · exact .inr (closing isClosed isToken)
            · exact .inl isClosed
        | _ => rfl)

variable {fragments : List String} {tree : Tree}

/-- A template that has been read is read again with the same tree as long as its closing tags
match, and is refused for one of them otherwise.
-/
theorem parse_again (agree : old.Agree now tree.ties)
    (parsed : parse old.resolver options fragments = .ok tree)
    : parse now.resolver options fragments = .ok tree
      ∨ ∃ error,
          parse now.resolver options fragments = .error error
          ∧ Refused now (Token.scan fragments).tokens tree.branches error := by
  obtain ⟨scanned, building, built, closed, rfl⟩ := parse_eq parsed
  obtain ⟨high, moves⟩ := Token.scan_moves scanned
  have again :=
    @steps_again old now options _ _ building _ _ agree (.start (fragments.length - 1))
      (fun _ member => member) moves.order built
  rcases again with same | ⟨error, failed, refused⟩
  · exact .inl (parse_of_built scanned same closed)
  · right
    refine ⟨error, ?_, ?_⟩
    · simp only [parse, ofScanned, failed, bind, Except.bind]
    · simpa only [Building.complete, closed, List.flatMap_nil, List.append_nil, Tree.branches]
        using refused

/-- The closing tags of a tree that has just been read match. -/
theorem matches_of_parse {registry : Registry}
    (parsed : parse registry.resolver options fragments = .ok tree)
    : tree.Matches registry fragments := by
  intro branch member name location isClosed isToken
  have read := (parse_read parsed).roots.branches branch member
  obtain ⟨other, isToken', closing⟩ := read.closing location isClosed
  obtain rfl := Token.scan_closing_unique (parse_eq parsed).1 isToken isToken'
  exact closing

/-- A template that has been read is read again with the same tree exactly when its closing
tags match.
-/
theorem parse_again_iff (agree : old.Agree now tree.ties)
    (parsed : parse old.resolver options fragments = .ok tree)
    : parse now.resolver options fragments = .ok tree ↔ tree.Matches now fragments := by
  refine ⟨matches_of_parse, ?_⟩
  intro matching
  rcases parse_again agree parsed with same | ⟨error, -, branch, member, name, location, refused⟩
  · exact same
  · obtain ⟨-, isClosed, isToken, notClosing, -⟩ := refused
    cases notClosing.symm.trans (matching branch member name location isClosed isToken)

end Tree

end TaggedMarkup
