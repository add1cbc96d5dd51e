import TaggedMarkup.Render.HostElement

/-! A bound template is rendered by running its program. The pieces are written and the calls
are made in order.
-/

namespace TaggedMarkup

/-- The values of a bound template with what renders each of them. -/
structure Slots where
  serial : Nat
  template : Compiled
  values : List Value
  /-- Renders the value of a slot. -/
  renderSlot : Nat → Render Unit
  /-- Renders the field at a position of the object in a slot. -/
  renderField : Nat → Nat → Render Unit

/-- What runs a component with its properties and its reference. -/
abbrev Invoke := Component → Props → Option Value → Render Unit

namespace Slots

def value (slots : Slots) (slot : Nat) : Value :=
  slots.values.getD slot .undefined

def renderSource (cx : RenderSettings) (slots : Slots) : Source → Render Unit
  | .literal text => Render.renderText cx text
  | .bare => pure ()
  | .slot index => slots.renderSlot index
  | .field index position => slots.renderField index position

/-- A child of a node as a value. A node inside becomes a bound template of its own. -/
def childValue (slots : Slots) : Child → Value
  | .text text => .string text
  | .slot index => slots.value index
  | .branch node _ =>
      .markup
        {
          serial := slots.serial
          template := slots.template
          values := slots.values
          entry := some node.id
        }

/-- The properties of a node without its key and reference. The children between its tags
become its `children` property. -/
def nodeProps (slots : Slots) (branch : Branch) : Identity × Props :=
  let (identity, props) := splitIdentity (branch.node.props slots.values)
  (identity,
    if branch.children.isEmpty then
      props
    else
      Fields.insert props "children" (Value.ofChildren (branch.children.map slots.childValue)))

/-- Renders the content that the attributes of a node give. -/
def renderContent (cx : RenderSettings) (slots : Slots) (node : Node) : Render Unit := do
  let tag := node.elementName?.getD ""
  match Content.ofProps (node.props slots.values) with
  | .error error => throw error
  | .ok .nothing => pure ()
  | .ok content =>
      if node.isVoid then
        throw (.voidElementChildren tag)
      else
        Render.renderContent tag content
          (match Fields.get? (node.sources slots.values) "children" with
            | some source => renderSource cx slots source
            | none => pure ())

/-- Begins a selection and enters its content. -/
def openSelection (cx : RenderSettings) (slots : Slots) (node : Node) : Render Unit := do
  let props := (splitIdentity (node.props slots.values)).2
  Render.writeOpenTag cx "select" (FormControl.selectProps props)
  Render.pushSelection (FormControl.selectValue props)

/-- Writes the property of a node if it becomes an attribute. -/
def writeProp (node : Node) (name : String) (value : Value) : Render Unit :=
  Render.writeOrFail (WrittenAttribute.ofProps [(name, value)] node.isCustom)

/-- Makes a call that concerns a node. -/
def callNode (cx : RenderSettings) (invoke : Invoke) (slots : Slots) (branch : Branch)
    : Call → Render Unit
  | .dynamicName _ entry =>
      match branch.node.attributes[entry]? with
      | some (.dynamicName slot _) =>
          match slots.values[slot]?.bind dynamicName? with
          | some name =>
              if branch.node.isOverridden entry name slots.values then
                pure ()
              else
                writeProp branch.node name (.bool true)
          | none => pure ()
      | _ => pure ()
  | .attribute _ entry =>
      match branch.node.attributes[entry]? with
      | some (.named name value _) =>
          if branch.node.isOverridden entry name slots.values then
            pure ()
          else
            writeProp branch.node name (value.source.value slots.values)
      | _ => pure ()
  | .spread _ entry =>
      Render.writeOrFail
        (WrittenAttribute.ofProps (branch.node.spreadSurvivors entry slots.values)
          branch.node.isCustom)
  | .content _ => renderContent cx slots branch.node
  | .component id =>
      match slots.template.component? id with
      | some component =>
          let (identity, props) := slots.nodeProps branch
          invoke component props identity.reference
      | none => pure ()
  | .host _ =>
      match branch.node.elementName? with
      | some tag => Render.renderControl cx tag (slots.nodeProps branch).2
      | none => pure ()
  | .selectOpen _ => openSelection cx slots branch.node
  | _ => pure ()

/-- Makes a call that concerns the node with a number. -/
def callNodeById (cx : RenderSettings) (invoke : Invoke) (slots : Slots) (id : Nat)
    (call : Call) : Render Unit :=
  match slots.template.tree.branch? id with
  | some branch => callNode cx invoke slots branch call
  | none => pure ()

def runCall (cx : RenderSettings) (invoke : Invoke) (slots : Slots) (call : Call)
    : Render Unit :=
  match call with
  | .text escaped => Render.writeText cx.options escaped
  | .value slot name custom =>
      Render.writeAll (WrittenAttribute.ofProperty? name (slots.value slot) custom).toList
  | .style slot =>
      Render.writeOrFail ((WrittenAttribute.ofStyle? (slots.value slot)).map Option.toList)
  | .rootMarker => Render.writeRootMarker cx.options
  | .child slot leadNewline =>
      Render.renderChild leadNewline (slots.value slot) (slots.renderSlot slot)
  | .selectClose => Render.popSelection
  | .dynamicName node _ | .attribute node _ | .spread node _ | .content node
  | .component node | .host node | .selectOpen node =>
      callNodeById cx invoke slots node call

def runProgram (cx : RenderSettings) (invoke : Invoke) (slots : Slots)
    : Program → Render Unit
  | [] => pure ()
  | .write piece :: rest => do
      Render.write piece
      runProgram cx invoke slots rest
  | .call call :: rest => do
      runCall cx invoke slots call
      runProgram cx invoke slots rest

/-- Runs the program of the whole template or of one node in it. -/
def render (cx : RenderSettings) (invoke : Invoke) (slots : Slots) (entry : Option Nat)
    : Render Unit :=
  match slots.template.program? entry with
  | some program => runProgram cx invoke slots program
  | none => pure ()

end Slots

end TaggedMarkup
