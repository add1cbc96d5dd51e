import TaggedMarkup.Error
import TaggedMarkup.Options
import TaggedMarkup.Resolver
import TaggedMarkup.Text.CharacterReference
import TaggedMarkup.Text.Lines
import TaggedMarkup.Token.Scanner
import TaggedMarkup.Tree

/-! The tree of a template is built from its tokens in one pass. The open elements form a
stack, each with the children read so far, and a node joins the children of the element
around it when it is complete.
-/

namespace TaggedMarkup.Tree

/-- An element whose closing tag has not been read. -/
structure Frame where
  node : Node
  children : List Child

/-- What has been read of a template. -/
structure Building where
  /-- The open elements, the innermost first. -/
  frames : List Frame := []
  roots : List Child := []
  /-- The node whose open tag is being read. -/
  current : Option Node := none
  /-- Whether the last thing read was a void element, whose closing tag may follow. -/
  afterVoid : Bool := false
  /-- The number of the next node. -/
  nextId : Nat := 0
  slots : List SlotKind
  ties : List String := []

namespace Building

/-- The start of a template with the given number of slots. -/
def start (slotCount : Nat) : Building :=
  { slots := List.replicate slotCount .ignored }

/-- The number of the innermost open element. -/
def parent? (building : Building) : Option Nat :=
  building.frames.head?.map fun frame => frame.node.id

/-- Adds a child to the innermost open element. -/
def addChild (building : Building) (child : Child) : Building :=
  match building.frames with
  | [] => { building with roots := building.roots ++ [child] }
  | frame :: outer =>
      { building with
        frames := { frame with children := frame.children ++ [child] } :: outer }

/-- Notes that the tree depends on the meaning of a name. -/
def tie (building : Building) (name : String) : Building :=
  if building.ties.contains name then
    building
  else
    { building with ties := building.ties ++ [name] }

def setSlot (building : Building) (slot : Nat) (kind : SlotKind) : Building :=
  { building with slots := building.slots.set slot kind }

end Building

/-- Literal text after the treatment of its spaces, or nothing. -/
def cleaned? (options : ReadOptions) (raw : String) : Option String :=
  match options.whitespace with
  | .condense => Text.condense? raw
  | .preserve => if raw.isEmpty then none else some raw

/-- Literal text with its character references decoded, if the options say so. -/
def decoded (options : ReadOptions) (raw : String) : String :=
  if options.decodeReferences then options.references.decode raw else raw

/-- Adds literal text. Blank text outside of all elements is dropped. -/
def addText (options : ReadOptions) (building : Building) (raw : String) : Building :=
  match cleaned? options raw with
  | none => building
  | some text =>
      if building.frames.isEmpty && Text.allBlank text then
        building
      else
        { building.addChild (.text (decoded options text)) with afterVoid := false }

/-- What a tag name stands for, and whether the tree depends on its meaning. -/
def resolveTag (resolver : Resolver) (name : String) : Tag × Bool :=
  match resolver.resolve name with
  | .component => (.component name, true)
  | .alias tag => (.element tag, true)
  | .unknown =>
      if name = Scanner.fragmentName then
        (.fragment, true)
      else
        (.element name, Html.startsCapital name)

def openTag (resolver : Resolver) (options : ReadOptions) (building : Building)
    (name : String) (location : Location) : Building :=
  let (tag, tied) := resolveTag resolver name
  let ofElement := fun (holds : String → Bool) =>
    match tag with
    | .element element => holds element
    | _ => false
  let node : Node :=
    {
      id := building.nextId
      name
      tag
      parent := building.parent?
      opened := location
      isVoid := ofElement options.isVoid
      isCustom := ofElement Html.isCustomTag
    }
  { (if tied then building.tie name else building) with
    current := some node
    nextId := building.nextId + 1
    afterVoid := false }

/-- Completes the notes on spreads with the names that follow each. -/
def notedAfter (node : Node) : Node :=
  { node with
    spreads := node.spreads.map fun note =>
      { note with after := (node.attributes.drop (note.entry + 1)).filterMap Attribute.name? } }

/-- Ends an open tag. The node is complete if the tag closes itself or the element is void,
and the innermost open element otherwise. -/
def openEnd (building : Building) (selfClosing : Bool) : Building :=
  match building.current with
  | none => building
  | some current =>
      let node := notedAfter current
      let building := { building with current := none }
      if selfClosing then
        building.addChild (.branch { node with isSelfClosing := true, isClosed := true } [])
      else if node.isVoid then
        { building.addChild (.branch { node with isClosed := true } []) with afterVoid := true }
      else
        { building with frames := ⟨node, []⟩ :: building.frames }

/-- Whether a closing tag belongs to an open element. -/
def closes (resolver : Resolver) (node : Node) (name : String) : Bool :=
  node.name == name || (node.isComponent && resolver.sameComponent node.name name)

/-- Notes a closing tag of the node that is the last child, if it has the name. -/
def closeLast? (name : String) (location : Location) : List Child → Option (List Child)
  | [] => none
  | [.branch node children] =>
      if node.name = name then
        some [.branch { node with closed := some location } children]
      else
        none
  | [_] => none
  | first :: rest => (closeLast? name location rest).map (first :: ·)

/-- Notes a closing tag that a void element needs not have. -/
def closeVoid? (building : Building) (name : String) (location : Location)
    : Option Building :=
  if building.afterVoid then
    match building.frames with
    | [] =>
        (closeLast? name location building.roots).map fun roots =>
          { building with roots, afterVoid := false }
    | frame :: outer =>
        (closeLast? name location frame.children).map fun children =>
          { building with frames := { frame with children } :: outer, afterVoid := false }
  else
    none

/-- Closes the innermost open element, or fails when the name is not its own. -/
def closeTag (resolver : Resolver) (building : Building) (name : String)
    (location : Location) : Except Error Building :=
  match building.frames with
  | frame :: outer =>
      if closes resolver frame.node name then
        let node := { frame.node with closed := some location, isClosed := true }
        .ok { ({ building with frames := outer }).addChild (.branch node frame.children) with
          afterVoid := false }
      else
        match closeVoid? building name location with
        | some closed => .ok closed
        | none => .error (.mismatchedClosingTag frame.node.name name location)
  | [] =>
      match closeVoid? building name location with
      | some closed => .ok closed
      | none => .error (.unexpectedClosingTag name location)

/-- Changes the node whose open tag is being read. -/
def changeCurrent (building : Building) (change : Node → Node) : Building :=
  { building with current := building.current.map change }

/-- Says what a slot is to the node whose open tag is being read. -/
def noteSlot (building : Building) (slot : Nat) (kind : Nat → SlotKind) : Building :=
  match building.current with
  | none => building
  | some node => building.setSlot slot (kind node.id)

/-- The node with a named attribute more. A name with an interpolated value is noted, and
`is` makes a host element a custom one. -/
def withNamed (node : Node) (name : String) (value : AttributeValue) (location : Location)
    : Node :=
  { node with
    attributes := node.attributes ++ [.named name value location]
    dynamicAttributes :=
      match value with
      | .slot index => Fields.insert node.dynamicAttributes name index
      | _ => node.dynamicAttributes
    isCustom := node.isCustom || (name == "is" && node.elementName?.isSome) }

def withSpread (node : Node) (slot : Nat) (location : Location) : Node :=
  let note : SpreadNote :=
    {
      slot
      entry := node.attributes.length
      before := node.attributes.filterMap Attribute.name?
      after := []
    }
  { node with
    attributes := node.attributes ++ [.spread slot location]
    spreads := node.spreads ++ [note] }

/-- The node with an interpolated name more. -/
def withDynamicName (node : Node) (slot : Nat) (location : Location) : Node :=
  { node with attributes := node.attributes ++ [.dynamicName slot location] }

def addSlot (building : Building) (slot : Nat) : Building :=
  let noted : Building :=
    match building.frames with
    | [] => building
    | frame :: outer =>
        let position := frame.children.length
        let node :=
          { frame.node with
            dynamicChildren := frame.node.dynamicChildren ++ [(position, slot)] }
        { building with frames := { frame with node } :: outer }
  { (noted.addChild (.slot slot)).setSlot slot (.child building.parent?) with
    afterVoid := false }

def step (resolver : Resolver) (options : ReadOptions) (building : Building)
    : Token → Except Error Building
  | .text raw _ => .ok (addText options building raw)
  | .openTag name location => .ok (openTag resolver options building name location)
  | .openEnd selfClosing => .ok (openEnd building selfClosing)
  | .closeTag name location => closeTag resolver building name location
  | .attribute name (.literal raw) location =>
      let value := AttributeValue.literal (decoded options raw)
      .ok (changeCurrent building (fun node => withNamed node name value location))
  | .attribute name .bare location =>
      .ok (changeCurrent building (fun node => withNamed node name .bare location))
  | .attribute name (.slot index) location =>
      .ok (changeCurrent
        (noteSlot building index (fun id => .attribute id name))
        (fun node => withNamed node name (.slot index) location))
  | .spread slot location =>
      .ok (changeCurrent (noteSlot building slot .spread)
        (fun node => withSpread node slot location))
  | .dynamicName slot location =>
      .ok (changeCurrent (noteSlot building slot .attributeName)
        (fun node => withDynamicName node slot location))
  | .child slot _ => .ok (addSlot building slot)
  | .ignored _ => .ok building

/-- The tree when every element is closed. -/
def finish (building : Building) : Except Error Tree :=
  match building.frames with
  | frame :: _ => .error (.unclosedTag frame.node.name frame.node.opened)
  | [] => .ok ⟨building.roots, building.slots, building.ties⟩

/-- The tree of the tokens, or the first failure. A failure of the scanner counts after the
tokens before it. -/
def ofScanned (resolver : Resolver) (options : ReadOptions) (slotCount : Nat)
    (scanned : Scanner.Scanned Unit) : Except Error Tree := do
  let building ← scanned.tokens.foldlM (step resolver options) (Building.start slotCount)
  scanned.result
  finish building

def parse (resolver : Resolver) (options : ReadOptions) (fragments : List String)
    : Except Error Tree :=
  ofScanned resolver options (fragments.length - 1) (Token.scan fragments)

end TaggedMarkup.Tree
