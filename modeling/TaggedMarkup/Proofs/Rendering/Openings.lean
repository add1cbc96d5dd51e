import TaggedMarkup.Proofs.Rendering.Marks
import TaggedMarkup.Proofs.Rendering.Places

/-! What the place of an element adds to the output begins with the open tag of the element. Its
attributes are what the properties of the element become.
-/

namespace TaggedMarkup

theorem Node.tag_of_elementName? {node : Node} {tag : String} (named : node.elementName? = some tag)
    : node.tag = .element tag := by
  simp only [elementName?] at named
  split at named
  next isElement => exact isElement.trans (congrArg Tag.element (Option.some.inj named))
  next => cases named

-----------------------------------------------------------------------------------------
-- Attributes by their names
-----------------------------------------------------------------------------------------

/-- An attribute by its name and its escaped text. -/
def Piece.ofAttribute (written : String × String) : Piece :=
  .attribute written.1 written.2

/-- Properties become attributes and nothing else. -/
theorem WrittenAttribute.ofProps_attributes {props : List (String × Value)} {custom : Bool}
    {pieces : List Piece} (written : ofProps props custom = .ok pieces)
    : ∃ attributes : List (String × String), pieces = attributes.map Piece.ofAttribute := by
  have attributes := ofProps_attribute written
  clear written
  induction pieces with
  | nil => exact ⟨[], rfl⟩
  | cons piece rest ih =>
      obtain ⟨others, rfl⟩ := ih fun other later => attributes other (List.mem_cons_of_mem _ later)
      obtain ⟨name, body, rfl⟩ := attributes piece (List.mem_cons_self ..)
      exact ⟨(name, body) :: others, rfl⟩

namespace Render

-----------------------------------------------------------------------------------------
-- Steps that have been made
-----------------------------------------------------------------------------------------

/-- What has been written at the end, in order. -/
def Progress.Adds (start finish : Progress) (pieces : List Piece) : Prop :=
  finish.output.toList = start.output.toList ++ pieces

namespace Progress.Adds

variable {start middle finish : Progress} {pieces others : List Piece}

theorem refl (start : Progress) : start.Adds start [] :=
  (List.append_nil _).symm

theorem trans (first : start.Adds middle pieces) (rest : middle.Adds finish others)
    : start.Adds finish (pieces ++ others) := by
  rw [Adds, rest, first, List.append_assoc]

theorem write (piece : Piece) (start : Progress) : start.Adds (start.write piece) [piece] := by
  simp [Adds, Progress.write]

/-- The mark of the first element is written or not. -/
theorem markRoot (options : RenderOptions) (start : Progress)
    : ∃ mark, (mark = [] ∨ mark = [.rootMarker]) ∧ start.Adds (start.markRoot options) mark := by
  simp only [Adds, Progress.markRoot]
  split
  · exact ⟨[.rootMarker], .inr rfl, by simp⟩
  · exact ⟨[], .inl rfl, by simp⟩

end Progress.Adds

section

variable {cx : RenderSettings} {paired : Prop} {steps : List Step} {subjects : List Subject}
  {start finish : Progress}

theorem Rendering.adds (rendering : Rendering cx paired steps subjects start finish)
    : ∃ pieces, start.Adds finish pieces := by
  obtain ⟨pieces, same⟩ := rendering.grows.1
  exact ⟨pieces, same.symm⟩

/-- Attributes that have been written did not fail, by induction on them. -/
theorem Rendering.attributes {written : Except Error (List Piece)}
    (rendering : Rendering cx paired (Step.attributes written ++ steps) subjects start finish)
    : ∃ pieces middle,
        written = .ok pieces
        ∧ start.Adds middle pieces
        ∧ Rendering cx paired steps subjects middle finish := by
  cases written with
  | error error => nomatch rendering
  | ok pieces =>
      simp only [Step.attributes] at rendering
      induction pieces generalizing start with
      | nil => exact ⟨[], start, rfl, .refl start, rendering⟩
      | cons piece rest ih =>
          cases rendering with
          | write rendering =>
              obtain ⟨pieces, middle, same, adds, rendering⟩ := ih rendering
              obtain rfl := Except.ok.inj same
              exact ⟨_, middle, rfl, (Progress.Adds.write piece start).trans adds, rendering⟩

/-- An open tag that has been written, and the steps behind it. -/
theorem Rendering.openTag {tag : String} {props : Props}
    (rendering : Rendering cx paired (Step.openTag tag props ++ steps) subjects start finish)
    : ∃ pieces mark middle,
        WrittenAttribute.ofProps props (Html.isCustomTag tag || Fields.contains props "is")
          = .ok pieces
        ∧ (mark = [] ∨ mark = [.rootMarker])
        ∧ start.Adds middle (.openTag tag :: pieces ++ mark)
        ∧ Rendering cx paired steps subjects middle finish := by
  simp only [Step.openTag, List.cons_append, List.append_assoc] at rendering
  cases rendering with
  | write rendering =>
      obtain ⟨pieces, middle, written, adds, rendering⟩ := rendering.attributes
      cases rendering with
      | rootMarker rendering =>
          obtain ⟨mark, isMark, adds'⟩ := Progress.Adds.markRoot cx.options middle
          have begins := (Progress.Adds.write (.openTag tag) start).trans adds
          exact ⟨pieces, mark, _, written, isMark, begins.trans adds', rendering⟩

/-- An element that has been rendered from its properties. Only one that is not void has content. -/
theorem Rendering.element {tag : String} {props : Props} {children : List Step}
    (rendering : Rendering cx paired (Step.element tag props children) subjects start finish)
    : ∃ pieces mark middle given,
        WrittenAttribute.ofProps props (Html.isCustomTag tag || Fields.contains props "is")
          = .ok pieces
        ∧ (mark = [] ∨ mark = [.rootMarker])
        ∧ start.Adds middle (.openTag tag :: pieces ++ mark)
        ∧ Content.ofProps props = .ok given
        ∧ Rendering cx paired
            (if Html.isVoid tag then
              [.write .selfClose]
            else
              .write .openEnd :: Step.content tag given children ++ [.write (.closeTag tag)])
            subjects middle finish := by
  simp only [Step.element] at rendering
  split at rendering
  · cases rendering
  split at rendering
  next => cases rendering
  next given isGiven =>
      obtain ⟨pieces, mark, middle, written, isMark, adds, rendering⟩ := rendering.openTag
      exact ⟨pieces, mark, middle, given, written, isMark, adds, isGiven, rendering⟩

/-- Attributes give no content to a void element. -/
theorem Rendering.given_void {around : Surroundings} {markup : Markup} {opened : Node}
    {tag : String} (isVoid : opened.isVoid = true)
    (rendering
      : Rendering cx paired (Step.given around markup opened tag ++ steps) subjects start finish)
    : Rendering cx paired steps subjects start finish := by
  simp only [Step.given, isVoid, if_true] at rendering
  split at rendering
  next =>
      split at rendering
      · cases rendering
      · exact rendering
      · cases rendering
  next => exact rendering

end

-----------------------------------------------------------------------------------------
-- Open tags of places
-----------------------------------------------------------------------------------------

/-- What is written at a place begins with the open tag of an element, which has these attributes
and apart from them at most the mark of the first element.
-/
def Place.Opens (place : Place) (tag : String) (attributes : List (String × String)) : Prop :=
  ∃ mark last rest,
    (mark = [] ∨ mark = [.rootMarker])
    ∧ Piece.isEnd last = true
    ∧ place.start.Adds place.finish
        (.openTag tag :: attributes.map Piece.ofAttribute ++ mark ++ last :: rest)

variable {cx : RenderSettings} {paired : Prop} {place : Place} {subjects : List Subject}
  {tag : String} {props : Props}

/-- An option or another form element is rendered from its properties in either mode. -/
theorem stepsOf_control (host : Host) (around : Surroundings) {subject : Subject}
    (isElement : subject.element? = some (tag, props))
    (isControl : Program.isFormControl tag = true)
    : stepsOf host around subject = Step.control around.selection tag props := by
  cases subject with
  | value | component => cases isElement
  | host other given =>
      obtain ⟨rfl, rfl⟩ := Prod.mk.inj (Option.some.inj isElement)
      simp only [stepsOf, Step.host, isControl, if_true]
  | node markup top leadNewline child =>
      cases child with
      | text | slot => cases isElement
      | branch opened nested =>
          obtain ⟨other, named, same⟩ := Option.map_eq_some_iff.mp isElement
          obtain ⟨rfl, rfl⟩ := Prod.mk.inj same
          have isTag := Node.tag_of_elementName? named
          simp only [stepsOf, Step.branch, isTag, isControl, if_true]

theorem Place.opens_of {attributes : List (String × String)} {mark : List Piece} {last : Piece}
    {steps : List Step} {middle : Progress} (isMark : mark = [] ∨ mark = [.rootMarker])
    (isEnd : last.isEnd = true)
    (adds
      : place.start.Adds middle (.openTag tag :: attributes.map Piece.ofAttribute ++ mark))
    (rendering : Rendering cx paired (.write last :: steps) subjects middle place.finish)
    : place.Opens tag attributes := by
  cases rendering with
  | write rendering =>
      obtain ⟨rest, adds'⟩ := rendering.adds
      have all := adds.trans ((Progress.Adds.write _ middle).trans adds')
      exact ⟨mark, last, rest, isMark, isEnd, all⟩

/-- An element that is rendered from its properties begins with what they become. -/
theorem Place.opens_element {children : List Step}
    (rendering
      : Rendering cx paired (Step.element tag props children) subjects place.start place.finish)
    : ∃ attributes : List (String × String),
        WrittenAttribute.ofProps props (Html.isCustomTag tag || Fields.contains props "is")
          = .ok (attributes.map Piece.ofAttribute)
        ∧ place.Opens tag attributes := by
  obtain ⟨pieces, mark, middle, given, written, isMark, adds, -, rendering⟩ := rendering.element
  obtain ⟨attributes, rfl⟩ := WrittenAttribute.ofProps_attributes written
  refine ⟨attributes, written, ?_⟩
  split at rendering
  · exact opens_of isMark rfl adds rendering
  · exact opens_of isMark rfl adds rendering

end Render

end TaggedMarkup
