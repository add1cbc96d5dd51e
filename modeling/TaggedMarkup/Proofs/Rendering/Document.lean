import TaggedMarkup.Piece
import TaggedMarkup.Proofs.Rendering.Written

/-! The language of well-formed markup, given by its grammar, and what keeps values inside the
texts and the attributes of it: escaped text has no special character on its own, and attributes
are written under safe names only.
-/

namespace TaggedMarkup

-----------------------------------------------------------------------------------------
-- The grammar
-----------------------------------------------------------------------------------------

def Text.references : List String :=
  ["&amp;", "&lt;", "&gt;", "&quot;", "&#x27;"]

/-- Text whose special characters are only the beginnings of the character references. -/
inductive Text.Escaped : List Char → Prop
  | nil : Text.Escaped []
  | plain {c : Char} {rest : List Char} (plain : c ∉ ['&', '<', '>', '"', '\''])
    (others : Text.Escaped rest)
    : Text.Escaped (c :: rest)
  | reference {reference : String} {rest : List Char} (listed : reference ∈ Text.references)
    (others : Text.Escaped rest)
    : Text.Escaped (reference.toList ++ rest)

/-- Attributes in a row. -/
inductive WrittenAttributes : String → Prop
  | nil : WrittenAttributes ""
  | cons {name body rest : String} (safe : Html.isSafeName name = true)
    (escaped : Text.Escaped body.toList) (others : WrittenAttributes rest)
    : WrittenAttributes (" " ++ name ++ "=\"" ++ body ++ "\"" ++ rest)

/-- Well-formed markup, in which tags are given. -/
inductive Document (tags : String → Prop) : String → Prop
  | nil : Document tags ""
  | text {text rest : String} (escaped : Text.Escaped text.toList) (others : Document tags rest)
    : Document tags (text ++ rest)
  | separator {rest : String} (others : Document tags rest)
    : Document tags ("<!-- -->" ++ rest)
  | element {tag attributes inner rest : String} (isTag : tags tag)
    (given : WrittenAttributes attributes) (inside : Document tags inner)
    (others : Document tags rest)
    : Document tags
        ("<" ++ tag ++ attributes ++ ">" ++ inner ++ "</" ++ tag ++ ">" ++ rest)
  | void {tag attributes rest : String} (isTag : tags tag)
    (given : WrittenAttributes attributes) (others : Document tags rest)
    : Document tags ("<" ++ tag ++ attributes ++ "/>" ++ rest)

namespace Document

variable {tags : String → Prop}

/-- Markup in a row is markup, by induction on the first. -/
theorem append {first second : String} (start : Document tags first)
    (rest : Document tags second)
    : Document tags (first ++ second) := by
  induction start with
  | nil => simpa only [String.empty_append] using rest
  | text escaped _ ih => simpa only [String.append_assoc] using Document.text escaped ih
  | separator _ ih => simpa only [String.append_assoc] using Document.separator ih
  | element isTag given inside _ _ ih =>
      simpa only [String.append_assoc] using Document.element isTag given inside ih
  | void isTag given _ ih => simpa only [String.append_assoc] using Document.void isTag given ih

/-- More tags may be given, by induction on the markup. -/
theorem mono {more : String → Prop} (subset : ∀ tag, tags tag → more tag) {markup : String}
    (document : Document tags markup)
    : Document more markup := by
  induction document with
  | nil => exact .nil
  | text escaped _ ih => exact .text escaped ih
  | separator _ ih => exact .separator ih
  | element isTag given _ _ inside rest => exact .element (subset _ isTag) given inside rest
  | void isTag given _ ih => exact .void (subset _ isTag) given ih

end Document

-----------------------------------------------------------------------------------------
-- Escaping
-----------------------------------------------------------------------------------------

/-- Escaping gives escaped text, by induction on the characters. -/
theorem Text.escaped_escape (text : String) : Text.Escaped (Text.escape text).toList := by
  simp only [escape, String.toList_ofList]
  induction text.toList with
  | nil => exact .nil
  | cons c rest ih =>
      simp only [escapedChars, List.flatMap_cons] at ih ⊢
      simp only [escapedChar]
      split
      · exact @Escaped.reference "&amp;" _ (by decide) ih
      · exact @Escaped.reference "&lt;" _ (by decide) ih
      · exact @Escaped.reference "&gt;" _ (by decide) ih
      · exact @Escaped.reference "&quot;" _ (by decide) ih
      · exact @Escaped.reference "&#x27;" _ (by decide) ih
      next notAnd notLess notGreater notQuote notApostrophe =>
          exact .plain (by simpa using ⟨notAnd, notLess, notGreater, notQuote, notApostrophe⟩) ih

-----------------------------------------------------------------------------------------
-- Attributes
-----------------------------------------------------------------------------------------

/-- An attribute that cannot break out of its tag. -/
inductive Piece.SafeAttribute : Piece → Prop
  | intro {name body : String} (safe : Html.isSafeName name = true)
    (escaped : Text.Escaped body.toList)
    : Piece.SafeAttribute (.attribute name body)

theorem Html.isSafeName_written {name : String} {property : Html.Property}
    (found : Html.property? name = some property)
    : Html.isSafeName property.written = true := by
  have all : Html.properties.all (fun property => Html.isSafeName property.written) = true := by
    decide +kernel
  exact List.all_eq_true.mp all property (List.mem_of_find?_eq_some found)

namespace WrittenAttribute

variable {name : String} {value : Value} {custom : Bool} {piece : Piece}

theorem Becomes.safe (becomes : Becomes name value custom piece) : piece.SafeAttribute := by
  have escaped : Text.Escaped (Text.escape value.text).toList := Text.escaped_escape value.text
  cases becomes with
  | custom _ safe | unlisted _ _ safe => exact .intro safe escaped
  | emptied found => exact .intro (Html.isSafeName_written found) .nil
  | listed found => exact .intro (Html.isSafeName_written found) escaped

theorem safe_ofStyle? (written : ofStyle? value = .ok (some piece)) : piece.SafeAttribute := by
  obtain ⟨css, rfl⟩ := ofStyle?_eq written
  exact .intro (by decide) (Text.escaped_escape css)

/-- Properties are written as safe attributes. -/
theorem safe_ofProps {props : List (String × Value)} {pieces : List Piece}
    (written : ofProps props custom = .ok pieces)
    : ∀ piece ∈ pieces, piece.SafeAttribute := by
  intro piece member
  obtain ⟨field, -, isWritten⟩ := mem_ofProps written member
  rcases ofProp?_eq isWritten with ⟨-, css, rfl⟩ | becomes
  · exact .intro (by decide) (Text.escaped_escape css)
  · exact becomes.safe

end WrittenAttribute

end TaggedMarkup
