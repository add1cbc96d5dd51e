import TaggedMarkup.Html.Tag
import TaggedMarkup.WrittenAttribute

/-! A tree compiles to one program for the whole template and to one for each node that stands
among the children of a component or of a form element. What the values cannot change is
written into the programs; what they can change becomes a call.
-/

namespace TaggedMarkup

namespace Node

/-- Whether an attribute of the template may give the node its content. -/
def hasContentSource (node : Node) : Bool :=
  node.hasSpread || node.hasNamed "children" || node.hasNamed "dangerouslySetInnerHTML"

/-- Whether the template gives the name a value of its own. -/
def hasStatic (node : Node) (name : String) : Bool :=
  node.attributes.any fun written =>
    match written with
    | .named _ (.slot _) _ => false
    | .named other _ _ => other == name
    | _ => false

/-- What is wrong with the content of an element whatever the values are. -/
def staticFault? (node : Node) (tag : String) : Option Error :=
  let children := node.hasStatic "children"
  let inner := node.hasStatic "dangerouslySetInnerHTML"
  if node.isVoid && (children || inner) then
    some (.voidElementChildren tag)
  else if inner then
    some .innerHtmlShape
  else
    none

end Node

namespace Program

/-- The step that writes a named attribute that no later spread can change. -/
def ofNamed (node : Node) (name : String) (value : AttributeValue) : Except Error Program :=
  match value with
  | .slot slot =>
      if name = "style" then
        .ok [.call (.style slot)]
      else
        .ok [.call (.value slot name node.isCustom)]
  | .literal text =>
      if name = "style" then
        .error .styleNotObject
      else
        .ok ((WrittenAttribute.ofProperty? name (.string text) node.isCustom).toList.map .write)
  | .bare =>
      if name = "style" then
        .error .styleNotObject
      else
        .ok ((WrittenAttribute.ofProperty? name (.bool true) node.isCustom).toList.map .write)

/-- Whether a style is given as text. -/
def isStaticStyle (name : String) (value : AttributeValue) : Bool :=
  name == "style" &&
    match value with
    | .slot _ => false
    | _ => true

/-- The step of the attribute at a position. An attribute before the last spread is a call,
because the spread may write its name. -/
def ofAttribute (node : Node) (entry : Nat) : Attribute → Except Error Program
  | .spread .. => .ok [.call (.spread node.id entry)]
  | .dynamicName .. => .ok [.call (.dynamicName node.id entry)]
  | .named name value _ =>
      if WrittenAttribute.isContentOrIdentity name then
        .ok []
      else if isStaticStyle name value then
        .error .styleNotObject
      else if (node.lastSpread?.any fun last => entry < last) then
        .ok [.call (.attribute node.id entry)]
      else
        ofNamed node name value

/-- The steps of the attributes from a position on. -/
def ofAttributes (node : Node) (entry : Nat) : List Attribute → Except Error Program
  | [] => .ok []
  | first :: rest => do
      let written ← ofAttribute node entry first
      let others ← ofAttributes node (entry + 1) rest
      .ok (written ++ others)

/-- The beginning of an element. A selection writes its attributes when it is rendered. -/
def ofOpening (node : Node) (tag : String) (top : Bool) : Except Error Program :=
  if tag = "select" then
    .ok [.call (.selectOpen node.id)]
  else do
    let attributes ← ofAttributes node 0 node.attributes
    .ok (.write (.openTag tag) :: attributes ++ if top then [.call .rootMarker] else [])

def ofContentSource (node : Node) : Program :=
  if node.hasContentSource then [.call (.content node.id)] else []

/-- Whether an element is rendered from all of its properties. -/
def isFormControl (tag : String) : Bool :=
  tag == "input" || tag == "textarea" || tag == "option"

/-- The end of an element that is not void. -/
def ofClosing (tag : String) : Program :=
  .write (.closeTag tag) :: if tag = "select" then [.call .selectClose] else []

/-- A program with the programs of the nodes inside it that have their own. -/
abbrev Output := Program × List (Nat × Program)

mutual

/-- The program of a child. `top` says that no element is around it in its program, and
`leadNewline` that it is the only child of an element that loses a line feed. -/
def ofChild (top leadNewline : Bool) : Child → Except Error Output
  | .text text => .ok ([.call (.text (Text.escape text))], [])
  | .slot slot => .ok ([.call (.child slot leadNewline)], [])
  | .branch node children =>
      match node.tag with
      | .fragment => ofChildren top false children
      | .component _ => do
          let programs ← ofNested children
          .ok ([.call (.component node.id)], programs)
      | .element tag =>
          match node.staticFault? tag with
          | some error => .error error
          | none =>
              if isFormControl tag then do
                let programs ← ofNested children
                .ok ([.call (.host node.id)], programs)
              else do
                let opening ← ofOpening node tag top
                if node.isVoid then
                  .ok (opening ++ ofContentSource node ++ [.write .selfClose], [])
                else if children.isEmpty then
                  .ok (opening ++ .write .openEnd :: ofContentSource node ++ ofClosing tag, [])
                else do
                  let single := children.length == 1
                  let (content, programs) ←
                    ofChildren false (single && Html.eatsNewline tag) children
                  .ok (opening ++ .write .openEnd :: content ++ ofClosing tag, programs)

/-- The program of children in a row. -/
def ofChildren (top leadNewline : Bool) : List Child → Except Error Output
  | [] => .ok ([], [])
  | first :: rest => do
      let (program, programs) ← ofChild top leadNewline first
      let (others, otherPrograms) ← ofChildren top leadNewline rest
      .ok (program ++ others, programs ++ otherPrograms)

/-- The programs of the nodes among the children of a node that is rendered from its
properties, each with those inside it. -/
def ofNested : List Child → Except Error (List (Nat × Program))
  | [] => .ok []
  | .branch node children :: rest => do
      let (program, programs) ← ofChild true false (.branch node children)
      let others ← ofNested rest
      .ok (programs ++ (node.id, program) :: others)
  | .text _ :: rest => ofNested rest
  | .slot _ :: rest => ofNested rest

end

end Program

/-- Compiles a tree with the components of its component nodes. -/
def Compiled.ofTree (tree : Tree) (components : List (Nat × Component))
    : Except Error Compiled := do
  let (root, programs) ← Program.ofChildren true false tree.roots
  .ok { tree, components, root, programs }

end TaggedMarkup
