import TaggedMarkup.Proofs.Reading.Bytewise

/-! What a tree says of the places of its nodes comes from the tokens, and so does the place of
every failure to build one. So every place that is reported of a template is right, and none is
reported but by a reader that keeps its offsets between characters.
-/

namespace TaggedMarkup

theorem Node.Located.of_same {fragments : List String} {node other : Node}
    (located : node.Located fragments) (opened : other.opened = node.opened)
    (closed : other.closed = node.closed) (attributes : other.attributes = node.attributes)
    : other.Located fragments where
  opened := opened ▸ located.opened
  closed := closed ▸ located.closed
  attributes := attributes ▸ located.attributes

/-- A node with an attribute more. -/
theorem Node.Located.withAttribute {fragments : List String} {node other : Node}
    {written : Attribute} (located : node.Located fragments) (isWritten : written.Located fragments)
    (opened : other.opened = node.opened) (closed : other.closed = node.closed)
    (attributes : other.attributes = node.attributes ++ [written])
    : other.Located fragments where
  opened := opened ▸ located.opened
  closed := closed ▸ located.closed
  attributes := by
    intro other member
    rw [attributes] at member
    rcases List.mem_append.mp member with early | last
    · exact located.attributes other early
    · exact List.mem_singleton.mp last ▸ isWritten

/-- A node whose closing tag has been read. -/
theorem Node.Located.close {fragments : List String} {node : Node} {location : Location}
    (located : node.Located fragments) (closes : location.Stands fragments "</")
    : ({ node with closed := some location } : Node).Located fragments where
  opened := located.opened
  closed := fun _ same => Option.some.inj same ▸ closes
  attributes := located.attributes

namespace Tree

variable {resolver : Resolver} {options : ReadOptions} {fragments : List String}
  {children others : List Child} {building : Building}

-----------------------------------------------------------------------------------------
-- The invariant
-----------------------------------------------------------------------------------------

/-- What the nodes of children say of their places is true. -/
def ChildrenLocated (fragments : List String) (children : List Child) : Prop :=
  ∀ branch ∈ Child.branchesOf children, branch.node.Located fragments

/-- What the nodes that have been read say of their places is true. -/
structure BuildingLocated (fragments : List String) (building : Building) : Prop where
  roots : ChildrenLocated fragments building.roots
  frames
    : ∀ frame ∈ building.frames,
        frame.node.Located fragments ∧ ChildrenLocated fragments frame.children
  current : ∀ node, building.current = some node → node.Located fragments

theorem ChildrenLocated.append (first : ChildrenLocated fragments children)
    (second : ChildrenLocated fragments others)
    : ChildrenLocated fragments (children ++ others) := by
  intro branch member
  rw [branchesOf_append] at member
  exact (List.mem_append.mp member).elim (first branch) (second branch)

theorem ChildrenLocated.branch {node : Node} (located : node.Located fragments)
    (inside : ChildrenLocated fragments children)
    : ChildrenLocated fragments [.branch node children] := by
  intro branch member
  simp only [Child.branchesOf, Child.branches, List.append_nil, List.mem_cons] at member
  rcases member with rfl | within
  · exact located
  · exact inside branch within

theorem ChildrenLocated.childless : ChildrenLocated fragments [] := by
  simp [ChildrenLocated, Child.branchesOf]

theorem BuildingLocated.start (slotCount : Nat) : BuildingLocated fragments (.start slotCount) where
  roots := .childless
  frames := by simp [Building.start]
  current := by simp [Building.start]

namespace BuildingLocated

/-- Only the nodes that have been read matter. -/
theorem same (located : BuildingLocated fragments building) (other : Building)
    (frames : other.frames = building.frames) (roots : other.roots = building.roots)
    (current : other.current = building.current)
    : BuildingLocated fragments other where
  roots := roots ▸ located.roots
  frames := frames ▸ located.frames
  current := current ▸ located.current

-----------------------------------------------------------------------------------------
-- Tokens
-----------------------------------------------------------------------------------------

theorem addChild (located : BuildingLocated fragments building) {child : Child}
    (childLocated : ChildrenLocated fragments [child])
    : BuildingLocated fragments (building.addChild child) := by
  obtain ⟨frames, roots, current, afterVoid, nextId, slots, ties⟩ := building
  cases frames with
  | nil => exact ⟨located.roots.append childLocated, by simp [Building.addChild], located.current⟩
  | cons frame outer =>
      refine ⟨located.roots, ?_, located.current⟩
      intro other member
      rcases List.mem_cons.mp member with rfl | outside
      · obtain ⟨node, inside⟩ := located.frames frame (by simp)
        exact ⟨node, inside.append childLocated⟩
      · exact located.frames other (by simp [outside])

theorem addText (located : BuildingLocated fragments building) (raw : String)
    : BuildingLocated fragments (addText options building raw) := by
  simp only [Tree.addText]
  split
  next => exact located
  next text cleaned =>
      split
      · exact located
      · exact (located.addChild (by simp [ChildrenLocated, Child.branchesOf, Child.branches])).same
          _ rfl rfl rfl

/-- An open tag begins. -/
theorem openTag (located : BuildingLocated fragments building) (name : String)
    {location : Location} (opens : location.Stands fragments "<")
    : BuildingLocated fragments (openTag resolver options building name location) := by
  have tied (name : String) : BuildingLocated fragments (building.tie name) := by
    simp only [Building.tie]
    split
    · exact located
    · exact located.same _ rfl rfl rfl
  have noted
      : BuildingLocated fragments
          (if (resolveTag resolver name).2 = true then building.tie name else building) := by
    split
    · exact tied name
    · exact located
  refine ⟨noted.roots, noted.frames, ?_⟩
  intro node same
  obtain rfl := Option.some.inj same
  exact ⟨opens, by simp, by simp⟩

theorem changeCurrent (located : BuildingLocated fragments building) {change : Node → Node}
    (keeps : ∀ node : Node, node.Located fragments → (change node).Located fragments)
    : BuildingLocated fragments (changeCurrent building change) where
  roots := located.roots
  frames := located.frames
  current := by
    intro node same
    obtain ⟨before, reading, rfl⟩ := Option.map_eq_some_iff.mp same
    exact keeps before (located.current before reading)

theorem noteSlot (located : BuildingLocated fragments building) (slot : Nat)
    (kind : Nat → SlotKind)
    : BuildingLocated fragments (noteSlot building slot kind) := by
  simp only [Tree.noteSlot]
  split
  · exact located
  · exact located.same _ rfl rfl rfl

theorem addSlot (located : BuildingLocated fragments building) (slot : Nat)
    : BuildingLocated fragments (addSlot building slot) := by
  have leaf : ChildrenLocated fragments [.slot slot] := by
    simp [ChildrenLocated, Child.branchesOf, Child.branches]
  cases frames : building.frames with
  | nil =>
      simp only [Tree.addSlot, frames]
      exact (located.addChild leaf).same _ rfl rfl rfl
  | cons frame outer =>
      simp only [Tree.addSlot, frames]
      have noted
          : BuildingLocated fragments
              { building with
                frames :=
                  { frame with
                    node :=
                      { frame.node with
                        dynamicChildren :=
                          frame.node.dynamicChildren ++ [(frame.children.length, slot)] } }
                  :: outer } := by
        refine ⟨located.roots, ?_, located.current⟩
        intro other member
        have inner := located.frames frame (by simp [frames])
        rcases List.mem_cons.mp member with rfl | outside
        · exact ⟨inner.1.of_same rfl rfl rfl, inner.2⟩
        · exact located.frames other (by simp [frames, outside])
      exact (noted.addChild leaf).same _ rfl rfl rfl

/-- An open tag ends. -/
theorem openEnd (located : BuildingLocated fragments building) (selfClosing : Bool)
    : BuildingLocated fragments (openEnd building selfClosing) := by
  simp only [Tree.openEnd]
  split
  next => exact located
  next node reading =>
      have begun := located.current node reading
      have idle : BuildingLocated fragments { building with current := none } :=
        ⟨located.roots, located.frames, by simp⟩
      split
      · exact idle.addChild (.branch (begun.of_same rfl rfl rfl) .childless)
      split
      · have added := idle.addChild
          (.branch (begun.of_same rfl rfl rfl : Node.Located fragments
            { notedAfter node with isClosed := true }) .childless)
        exact ⟨added.roots, added.frames, added.current⟩
      · refine ⟨located.roots, ?_, by simp⟩
        intro frame member
        rcases List.mem_cons.mp member with rfl | outside
        · exact ⟨begun.of_same rfl rfl rfl, .childless⟩
        · exact located.frames frame outside

end BuildingLocated

/-- A closing tag is noted on the last child. -/
theorem ChildrenLocated.closeLast {name : String} {location : Location} {closed : List Child}
    (located : ChildrenLocated fragments children)
    (closing : location.Stands fragments "</")
    (closes : closeLast? name location children = some closed)
    : ChildrenLocated fragments closed := by
  obtain ⟨before, node, inside, rfl, rfl, -⟩ := closeLast?_eq closes
  have early : ChildrenLocated fragments before :=
    fun branch member => located branch (by simp [branchesOf_append, member])
  have last : node.Located fragments :=
    located ⟨node, inside⟩ (by simp [branchesOf_append, Child.branchesOf, Child.branches])
  have within : ChildrenLocated fragments inside := fun branch member =>
    located branch (by simp [branchesOf_append, Child.branchesOf, Child.branches, member])
  exact early.append (.branch (last.close closing) within)

namespace BuildingLocated

theorem closeVoid (located : BuildingLocated fragments building) {name : String}
    {location : Location} (closing : location.Stands fragments "</") {closed : Building}
    (closes : VoidClosed name location building closed)
    : BuildingLocated fragments closed := by
  cases closes with
  | atRoot _ _ found =>
      exact ⟨located.roots.closeLast closing found, located.frames, located.current⟩
  | @inside frame outer _ _ frames found =>
      obtain ⟨node, inside⟩ := located.frames frame (by simp [frames])
      refine ⟨located.roots, ?_, located.current⟩
      intro other member
      rcases List.mem_cons.mp member with rfl | outside
      · exact ⟨node, inside.closeLast closing found⟩
      · exact located.frames other (by simp [frames, outside])

end BuildingLocated

/-- What has been built, or the failure to build it, says the truth of its places. -/
def OutcomeLocated (fragments : List String) : Except Error Building → Prop
  | .ok building => BuildingLocated fragments building
  | .error error => error.Located fragments

namespace BuildingLocated

theorem closeTag (located : BuildingLocated fragments building) (name : String)
    {location : Location} (closing : location.Stands fragments "</")
    : OutcomeLocated fragments (closeTag resolver building name location) := by
  simp only [Tree.closeTag]
  split
  next frame outer frames =>
      obtain ⟨node, inside⟩ := located.frames frame (by simp [frames])
      split
      · have outside : BuildingLocated fragments { building with frames := outer } :=
          ⟨located.roots, fun other member => located.frames other (by simp [frames, member]),
            located.current⟩
        have closed
            : ChildrenLocated fragments
                [.branch { frame.node with closed := some location, isClosed := true }
                  frame.children] :=
          .branch ((node.close closing).of_same rfl rfl rfl) inside
        exact (outside.addChild closed).same _ rfl rfl rfl
      split
      next voidClosed => exact located.closeVoid closing (.of_closeVoid? voidClosed)
      next => exact closing
  next =>
      split
      next voidClosed => exact located.closeVoid closing (.of_closeVoid? voidClosed)
      next => exact closing

/-- One token keeps the places true. -/
theorem step (located : BuildingLocated fragments building) {token : Token}
    (isTrue : token.Located fragments)
    : OutcomeLocated fragments (step resolver options building token) := by
  cases token with
  | text raw location => exact located.addText raw
  | openTag name location => exact located.openTag name isTrue
  | openEnd selfClosing => exact located.openEnd selfClosing
  | closeTag name location => exact located.closeTag name isTrue
  | «attribute» name value location =>
      have written (value : AttributeValue)
          : (Attribute.named name value location).Located fragments :=
        isTrue
      cases value with
      | literal raw =>
          exact located.changeCurrent fun _ begun => begun.withAttribute (written _) rfl rfl rfl
      | bare =>
          exact located.changeCurrent fun _ begun => begun.withAttribute (written _) rfl rfl rfl
      | slot slot =>
          exact (located.noteSlot slot _).changeCurrent fun _ begun =>
            begun.withAttribute (written _) rfl rfl rfl
  | spread slot location =>
      have written : (Attribute.spread slot location).Located fragments := isTrue
      exact (located.noteSlot slot _).changeCurrent fun _ begun =>
        begun.withAttribute written rfl rfl rfl
  | dynamicName slot location =>
      have written : (Attribute.dynamicName slot location).Located fragments := isTrue
      exact (located.noteSlot slot _).changeCurrent fun _ begun =>
        begun.withAttribute written rfl rfl rfl
  | child slot location => exact located.addSlot slot
  | ignored slot => exact located

/-- All tokens keep the places true, by induction on them. -/
theorem steps (located : BuildingLocated fragments building) {tokens : List Token}
    (isTrue : ∀ token ∈ tokens, token.Located fragments)
    : OutcomeLocated fragments (tokens.foldlM (Tree.step resolver options) building) := by
  induction tokens generalizing building with
  | nil => exact located
  | cons token rest ih =>
      have stepped : OutcomeLocated fragments (Tree.step resolver options building token) :=
        located.step (isTrue token (by simp))
      simp only [List.foldlM_cons, bind, Except.bind]
      split
      next error failed =>
          rw [failed] at stepped
          exact stepped
      next reached went =>
          rw [went] at stepped
          exact ih stepped fun other member => isTrue other (by simp [member])

end BuildingLocated

/-- The nodes of the tree of a template say the truth of their places, and so does the failure to
read it.
-/
theorem located_parse (resolver : Resolver) (options : ReadOptions) (fragments : List String)
    : (∀ tree,
        parse resolver options fragments = .ok tree
        → ∀ branch ∈ tree.branches, branch.node.Located fragments)
      ∧ ∀ error, parse resolver options fragments = .error error → error.Located fragments := by
  have scanned := Token.scan_located fragments
  have built
      : OutcomeLocated fragments
          ((Token.scan fragments).tokens.foldlM (step resolver options)
            (.start (fragments.length - 1))) :=
    (BuildingLocated.start (fragments.length - 1)).steps scanned.tokens
  simp only [parse, ofScanned, bind, Except.bind]
  split
  next error failed =>
      rw [failed] at built
      exact ⟨by simp, fun _ same => Except.error.inj same ▸ built⟩
  next building done =>
      rw [done] at built
      split
      next error failed =>
          exact ⟨by simp, fun _ same => Except.error.inj same ▸ scanned.failure error failed⟩
      next =>
          simp only [finish]
          split
          next frame outer frames =>
              refine ⟨by simp, ?_⟩
              intro error same
              obtain rfl := Except.error.inj same
              exact (built.frames frame (by simp [frames])).1.opened
          next =>
              refine ⟨?_, by simp⟩
              intro tree same
              obtain rfl := Except.ok.inj same
              exact built.roots

/-- A template is read byte by byte without a cut behind the end of a fragment or inside a
character, and every place that a token, a node or a failure has is between two characters of a
fragment and is where the thing stands that it is said to be the place of.
-/
theorem parse_places (resolver : Resolver) (options : ReadOptions) {fragments : List String}
    (few : fragments.length < UInt32.size)
    (short : ∀ text ∈ fragments, text.utf8ByteSize < UInt32.size)
    : Bytes.scan? fragments = some (Token.scan fragments)
      ∧ (∀ token ∈ (Token.scan fragments).tokens,
          token.Located fragments
          ∧ ∀ location, token.location? = some location → location.Within fragments)
      ∧ (∀ error,
          (Token.scan fragments).result = .error error
            ∨ parse resolver options fragments = .error error
          → error.Located fragments
            ∧ ∀ location, error.location? = some location → location.Within fragments)
      ∧ ∀ tree,
          parse resolver options fragments = .ok tree
          → ∀ branch ∈ tree.branches,
              branch.node.Located fragments
              ∧ ∀ location ∈ branch.node.locations, location.Within fragments := by
  have scanned := Token.scan_located fragments
  obtain ⟨nodes, failure⟩ := located_parse resolver options fragments
  refine ⟨Bytes.scan?_eq few short, ?_, ?_, ?_⟩
  · intro token member
    have located := scanned.tokens token member
    exact ⟨located, fun _ isHere => located.within isHere⟩
  · intro error fails
    have located : error.Located fragments := fails.elim (scanned.failure error) (failure error)
    exact ⟨located, fun _ isHere => located.within isHere⟩
  · intro tree parsed branch member
    have located := nodes tree parsed branch member
    exact ⟨located, fun _ isHere => located.within isHere⟩

/-- A template with characters of several bytes before its tags, in them and behind them. -/
theorem parse_places_wide
    : let fragments := ["ö<!--é--><p ä='ß' ...", ">日本", "</p >"]
      fragments.length < UInt32.size
      ∧ (∀ text ∈ fragments, text.utf8ByteSize < UInt32.size)
      ∧ Bytes.scan? fragments
        = some
            ⟨[.text "ö" ⟨0, 0⟩, .openTag "p" ⟨0, 11⟩, .attribute "ä" (.literal "ß") ⟨0, 14⟩,
              .spread 0 ⟨0, 22⟩, .openEnd false, .text "日本" ⟨1, 1⟩, .child 1 ⟨1, 7⟩,
              .closeTag "p" ⟨2, 0⟩],
            .ok ()⟩
      ∧ ∃ tree,
          parse .empty {} fragments = .ok tree
          ∧ tree.branches.map (fun branch => branch.node.locations)
            = [[⟨0, 11⟩, ⟨2, 0⟩, ⟨0, 14⟩, ⟨0, 22⟩]]
          ∧ ∀ branch ∈ tree.branches, branch.node.Located fragments := by
  intro fragments
  have few : fragments.length < UInt32.size := by decide
  have short : ∀ text ∈ fragments, text.utf8ByteSize < UInt32.size := by decide
  obtain ⟨scanned, -, -, nodes⟩ := parse_places .empty {} few short
  refine ⟨few, short, scanned.trans (congrArg some rfl), ?_⟩
  have checked
      : (parse .empty {} fragments).map (fun tree =>
            tree.branches.map fun branch => branch.node.locations)
          = .ok [[⟨0, 11⟩, ⟨2, 0⟩, ⟨0, 14⟩, ⟨0, 22⟩]] := by
    decide +kernel
  obtain ⟨tree, parsed, places⟩ := exists_of_map checked
  refine ⟨tree, parsed, places, ?_⟩
  intro branch member
  exact (nodes tree parsed branch member).1

end Tree

end TaggedMarkup
