import TaggedMarkup.Proofs.Reading.Building

/-! The tree of a template that can be read. Its nodes carry their numbers, so a node is found
again by its number, and what its tags say about a node holds of every node.
-/

namespace TaggedMarkup.Tree

variable {resolver : Resolver} {options : ReadOptions} {fragments : List String} {tree : Tree}

/-- What reading a template comes to: the tokens lead to a building without open elements. -/
theorem parse_eq (parsed : parse resolver options fragments = .ok tree)
    : (Token.scan fragments).result = .ok ()
      ∧ ∃ building,
          (Token.scan fragments).tokens.foldlM (step resolver options)
              (Building.start (fragments.length - 1))
            = .ok building
          ∧ building.frames = []
          ∧ tree = ⟨building.roots, building.slots, building.ties⟩ := by
  obtain ⟨building, built, parsed⟩ := exists_of_bind parsed
  obtain ⟨⟨⟩, scanned, parsed⟩ := exists_of_bind parsed
  refine ⟨scanned, building, built, ?_⟩
  simp only [finish] at parsed
  split at parsed
  next => cases parsed
  next frames => exact ⟨frames, (Except.ok.inj parsed).symm⟩

/-- Tokens that lead to a building without open elements give a tree. -/
theorem parse_of_built {building : Building}
    (scanned : (Token.scan fragments).result = .ok ())
    (built
      : (Token.scan fragments).tokens.foldlM (step resolver options)
            (Building.start (fragments.length - 1))
          = .ok building)
    (closed : building.frames = [])
    : parse resolver options fragments = .ok ⟨building.roots, building.slots, building.ties⟩ := by
  simp only [parse, ofScanned, built, scanned, bind, Except.bind, finish, closed]

/-- The building that a template leads to is idle, and its nodes are numbered. -/
theorem parse_built (parsed : parse resolver options fragments = .ok tree)
    : ∃ building,
        (Token.scan fragments).tokens.foldlM (step resolver options)
            (Building.start (fragments.length - 1))
          = .ok building
        ∧ BuildingRead resolver options (Token.scan fragments).tokens building
        ∧ building.frames = []
        ∧ building.current = none
        ∧ building.nextId = tree.branches.length
        ∧ tree = ⟨building.roots, building.slots, building.ties⟩ := by
  obtain ⟨scanned, building, built, closed, rfl⟩ := parse_eq parsed
  obtain ⟨high, moves⟩ := Token.scan_moves scanned
  obtain ⟨read, same⟩ :=
    (BuildingRead.start (fragments.length - 1)).steps (fun _ member => member) moves.order built
  have idle : building.current = none :=
    Option.isNone_iff_eq_none.mp (Option.isSome_eq_false_iff.mp same)
  have numbered := congrArg List.length read.numbered
  simp only [Building.ids, closed, idle, List.reverse_nil, List.flatMap_nil, List.append_nil,
    Option.map_none, Option.toList_none, childIds, List.length_map, List.length_range] at numbered
  exact ⟨building, built, read, closed, idle, numbered.symm, rfl⟩

/-- A tree that has been read: every node is complete, and the nodes are numbered in the order
of their open tags.
-/
structure TreeRead (resolver : Resolver) (options : ReadOptions) (tokens : List Token)
    (tree : Tree)
    : Prop where
  roots : ChildrenRead resolver options tree.ties tokens tree.roots
  numbered : childIds tree.roots = List.range tree.branches.length

/-- A template that can be read gives a tree that has been read. -/
theorem parse_read (parsed : parse resolver options fragments = .ok tree)
    : TreeRead resolver options (Token.scan fragments).tokens tree := by
  obtain ⟨building, -, read, closed, idle, count, rfl⟩ := parse_built parsed
  have numbered := read.numbered
  simp only [Building.ids, closed, idle, List.reverse_nil, List.flatMap_nil, List.append_nil,
    Option.map_none, Option.toList_none] at numbered
  exact ⟨read.stack.roots, count ▸ numbered⟩

/-- The node at a number has the number. -/
theorem TreeRead.id_branch? {tokens : List Token} (read : TreeRead resolver options tokens tree)
    {id : Nat} {branch : Branch} (found : tree.branch? id = some branch)
    : branch.node.id = id := by
  have inside := (List.getElem?_eq_some_iff.mp found).1
  have number : (childIds tree.roots)[id]? = some id := by
    rw [read.numbered]
    exact List.getElem?_range inside
  have here : (childIds tree.roots)[id]? = some branch.node.id := by
    rw [childIds, List.getElem?_map]
    exact congrArg (Option.map fun branch => branch.node.id) found
  exact Option.some.inj (here.symm.trans number)

/-- A node of the tree is found by its number. -/
theorem TreeRead.branch?_id {tokens : List Token} (read : TreeRead resolver options tokens tree)
    {branch : Branch} (member : branch ∈ tree.branches)
    : tree.branch? branch.node.id = some branch := by
  obtain ⟨id, inside, isHere⟩ := List.getElem_of_mem member
  have found : tree.branch? id = some branch := isHere ▸ List.getElem?_eq_getElem inside
  rw [read.id_branch? found, found]

end TaggedMarkup.Tree
