import TaggedMarkup.ElementGraph
import TaggedMarkup.Proofs.Rendering.Attributes

/-! The properties of an element are its merged attributes without the key and the reference,
and the children between its tags. Rendering an element looks at what may become attributes and
at the two properties that give content, and at nothing else.
-/

namespace TaggedMarkup

def writable (props : List (String × Value)) : List (String × Value) :=
  props.filter fun field => !WrittenAttribute.isContentOrIdentity field.1

/-- The properties of a node as an element with the given children. -/
def Node.elementProps (node : Node) (values children : List Value) : Props :=
  let props := (splitIdentity (node.props values)).2
  if children.isEmpty then props else Fields.insert props "children" (Value.ofChildren children)

-----------------------------------------------------------------------------------------
-- Properties that become attributes
-----------------------------------------------------------------------------------------

variable {props other : Props} {name : String}

/-- Writing a property that never is an attribute changes no attribute. -/
theorem writable_insert_excluded (props : Props) (value : Value)
    (excluded : WrittenAttribute.isContentOrIdentity name = true)
    : writable (Fields.insert props name value) = writable props := by
  rw [writable, Fields.filter_insert props (fun name => !WrittenAttribute.isContentOrIdentity name),
    excluded]
  rfl

theorem writable_insert (props : Props) (value : Value)
    (written : WrittenAttribute.isContentOrIdentity name = false)
    : writable (Fields.insert props name value) = Fields.insert (writable props) name value := by
  rw [writable, Fields.filter_insert props (fun name => !WrittenAttribute.isContentOrIdentity name),
    written]
  rfl

/-- Writing several properties writes those among the attributes that may be attributes. -/
theorem writable_insertAll (props : Props) (entries : List (String × Value))
    : writable (Fields.insertAll props entries)
      = Fields.insertAll (writable props) (writable entries) :=
  Fields.filter_insertAll props entries fun name => !WrittenAttribute.isContentOrIdentity name

theorem writable_splitIdentity (props : Props)
    : writable (splitIdentity props).2 = writable props := by
  have erased (fields : Props) (name : String)
      (excluded : (!WrittenAttribute.isContentOrIdentity name) = false)
      : writable (Fields.erase fields name) = writable fields :=
    Fields.filter_erase fields (fun name => !WrittenAttribute.isContentOrIdentity name) excluded
  exact (erased _ "ref" rfl).trans (erased props "key" rfl)

/-- The name of an attribute has the value of the property. -/
theorem get?_writable (written : WrittenAttribute.isContentOrIdentity name = false)
    : Fields.get? (writable props) name = Fields.get? props name := by
  rw [writable, Fields.get?_filter props (fun name => !WrittenAttribute.isContentOrIdentity name),
    written]
  rfl

/-- What properties become depends on those that may be attributes. -/
theorem ofProps_congr (same : writable props = writable other) (custom : Bool)
    : WrittenAttribute.ofProps props custom = WrittenAttribute.ofProps other custom := by
  rw [← WrittenAttribute.ofProps_filter props, ← WrittenAttribute.ofProps_filter other]
  exact congrArg (WrittenAttribute.ofProps · custom) same

/-- Whether a name that may be an attribute is among the properties depends on those that may
be attributes.
-/
theorem contains_congr (same : writable props = writable other)
    (written : WrittenAttribute.isContentOrIdentity name = false)
    : Fields.contains props name = Fields.contains other name := by
  rw [Bool.eq_iff_iff, Fields.contains_iff, Fields.contains_iff, ← get?_writable written, same,
    get?_writable written]

-----------------------------------------------------------------------------------------
-- Elements
-----------------------------------------------------------------------------------------

namespace Render

variable {cx : RenderSettings} {tag : String} {children : Render Unit}

/-- The beginning of an element depends on the properties that may be attributes. -/
theorem writeOpenTag_congr (same : writable props = writable other)
    : writeOpenTag cx tag props = writeOpenTag cx tag other := by
  have isSame : Fields.contains props "is" = Fields.contains other "is" :=
    contains_congr same rfl
  simp only [writeOpenTag, isSame, ofProps_congr same]

/-- An element depends on the properties that may be attributes and on the two that give
content.
-/
theorem renderElement_congr (same : writable props = writable other)
    (inside : Fields.get? props "children" = Fields.get? other "children")
    (inner
      : Fields.get? props "dangerouslySetInnerHTML"
        = Fields.get? other "dangerouslySetInnerHTML")
    : renderElement cx tag props children = renderElement cx tag other children := by
  have content : Content.ofProps props = Content.ofProps other := by
    simp only [Content.ofProps, inside, inner]
  have has : hasContent props = hasContent other := by
    simp only [hasContent, inside, inner]
  rw [renderElement, renderElement, content, has, writeOpenTag_congr same]

end Render

/-- Properties without markup that is written as it is have children as content, if any. -/
theorem Content.ofProps_children (noInner : Fields.get? props "dangerouslySetInnerHTML" = none)
    : Content.ofProps props
      = .ok
          (match (Fields.get? props "children").bind Value.present? with
            | some value => .children value
            | none => .nothing) := by
  simp only [Content.ofProps, noInner, Option.bind_none]
  cases (Fields.get? props "children").bind Value.present? <;> rfl

-----------------------------------------------------------------------------------------
-- Properties of nodes
-----------------------------------------------------------------------------------------

namespace Node

variable {node : Node} {values children : List Value}

/-- The attributes of an element are those of its node. -/
theorem writable_elementProps (node : Node) (values children : List Value)
    : writable (node.elementProps values children) = writable (node.props values) := by
  simp only [elementProps]
  split
  · exact writable_splitIdentity _
  · exact (writable_insert_excluded _ _ rfl).trans (writable_splitIdentity _)

/-- Names apart from the key and the reference keep their values without these. -/
theorem get?_splitIdentity (props : Props) (notKey : name ≠ "key") (notRef : name ≠ "ref")
    : Fields.get? (splitIdentity props).2 name = Fields.get? props name := by
  simp only [splitIdentity, Fields.get?_erase, if_neg notKey.symm, if_neg notRef.symm]

/-- Names apart from the key, the reference and the children have the values of the node. -/
theorem get?_elementProps (node : Node) (values children : List Value)
    (other : name ≠ "key" ∧ name ≠ "ref" ∧ name ≠ "children")
    : Fields.get? (node.elementProps values children) name
      = Fields.get? (node.props values) name := by
  obtain ⟨notKey, notRef, notChildren⟩ := other
  simp only [elementProps]
  split
  · exact get?_splitIdentity _ notKey notRef
  · rw [Fields.get?_insert, if_neg notChildren.symm, get?_splitIdentity _ notKey notRef]

/-- The children between the tags replace those that attributes give. -/
theorem get?_elementProps_children (node : Node) (values children : List Value)
    : Fields.get? (node.elementProps values children) "children"
      = if children.isEmpty then
          Fields.get? (node.props values) "children"
        else
          some (Value.ofChildren children) := by
  simp only [elementProps]
  split
  · exact get?_splitIdentity _ (by decide) (by decide)
  · rw [Fields.get?_insert, if_pos rfl]

end Node

/-- A node in a bound template has the properties of an element. -/
theorem Slots.nodeProps_eq (slots : Slots) (branch : Branch)
    : (slots.nodeProps branch).2
      = branch.node.elementProps slots.values (branch.children.map slots.childValue) := by
  simp only [Slots.nodeProps, Node.elementProps, List.isEmpty_map]

end TaggedMarkup
