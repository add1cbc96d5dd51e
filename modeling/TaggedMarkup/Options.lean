import TaggedMarkup.Html.Tag
import TaggedMarkup.Text.References

/-! The options of reading and of rendering templates. -/

namespace TaggedMarkup

/-- What happens to the spaces of literal text. -/
inductive Whitespace where
  | condense
  /-- Literal text is kept as it is. -/
  | preserve
deriving DecidableEq, Repr, Inhabited

structure ReadOptions where
  whitespace : Whitespace := .condense
  decodeReferences : Bool := true
  isVoid : String → Bool := Html.isVoid
  /-- What decodes the character references, if they are decoded. -/
  references : Text.References := .standard

structure RenderOptions where
  /-- Whether the first element of a render is marked. -/
  rootMarker : Bool := true
  /-- Whether the marker and the separators between texts are left out. -/
  staticMarkup : Bool := false
  /-- How many components may be nested. -/
  maxDepth : Nat := 256
deriving DecidableEq, Repr, Inhabited

structure Options where
  read : ReadOptions := {}
  render : RenderOptions := {}

end TaggedMarkup
