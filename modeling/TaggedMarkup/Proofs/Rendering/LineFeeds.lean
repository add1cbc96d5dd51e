import TaggedMarkup.Proofs.Rendering.Contents
import TaggedMarkup.Proofs.Rendering.Openings
import TaggedMarkup.Proofs.Rendering.WellFormed

/-! Elements that lose a leading line feed when a page is read get another one before it. It is
lost nevertheless where the line feed is literal text of a template.
-/

namespace TaggedMarkup

-----------------------------------------------------------------------------------------
-- Content that is one string
-----------------------------------------------------------------------------------------

/-- One string as the content of an element. -/
inductive Supply where
  /-- Literal text between the tags of a template. -/
  | literal (text : String)
  /-- A string that is a value. -/
  | value (text : String)
  /-- Markup that is written as it is. -/
  | inner (markup : String)

namespace Supply

def string : Supply → String
  | .literal text | .value text => text
  | .inner markup => markup

/-- The string as it is written. -/
def body : Supply → String
  | .literal text | .value text => Text.escape text
  | .inner markup => markup

/-- What stands between the tags if a leading line feed is to be kept. -/
def kept (supply : Supply) : String :=
  if Render.startsWithNewline supply.string then "\n" ++ supply.body else supply.body

/-- The string is literal text that begins with a line feed. -/
def IsLiteralFeed : Supply → Prop
  | .literal text => Render.startsWithNewline text = true
  | _ => False

/-- What is written between the tags. -/
def written : Supply → String
  | .literal text => Text.escape text
  | supply => supply.kept

/-- Exactly the literal texts that begin with a line feed lose it. -/
theorem written_eq_kept (supply : Supply)
    : supply.written = supply.kept ↔ ¬supply.IsLiteralFeed := by
  cases supply with
  | value | inner => simp [written, IsLiteralFeed]
  | literal text =>
      simp only [written, kept, string, body, IsLiteralFeed]
      by_cases begins : Render.startsWithNewline text = true
      · simp [begins, String.ext_iff]
      · simp [begins]

end Supply

/-- A property that is not merely true comes from a name in the template or from a spread. -/
theorem Node.hasSource {node : Node} {values : List Value} {name : String} {value : Value}
    (noted : node.spreads = Attribute.notes node.attributes)
    (found : Fields.get? (node.props values) name = some value) (notTrue : value ≠ .bool true)
    : node.hasSpread = true ∨ node.hasNamed name = true := by
  rw [get?_props] at found
  obtain ⟨written, member, assigned⟩ :=
    List.mem_flatMap.mp (List.mem_reverse.mp (Fields.mem_of_get? found))
  cases written with
  | named other given location =>
      obtain ⟨rfl, -⟩ := Prod.mk.inj (List.mem_singleton.mp assigned)
      exact .inr (List.any_eq_true.mpr ⟨_, member, by simp [Attribute.name?]⟩)
  | dynamicName slot location =>
      simp only [Attribute.assigned] at assigned
      split at assigned
      · exact absurd (Prod.mk.inj (List.mem_singleton.mp assigned)).2 notTrue
      · cases assigned
  | spread slot location =>
      refine .inl ?_
      obtain ⟨entry, isHere⟩ := List.mem_iff_getElem?.mp member
      let note : SpreadNote :=
        {
          slot
          entry
          before := (node.attributes.take entry).filterMap Attribute.name?
          after := (node.attributes.drop (entry + 1)).filterMap Attribute.name?
        }
      have isNoted : note ∈ Attribute.notes node.attributes :=
        mem_notes.mpr ⟨location, isHere, rfl, rfl⟩
      rw [hasSpread, noted]
      cases notes : Attribute.notes node.attributes with
      | nil =>
          rw [notes] at isNoted
          cases isNoted
      | cons => rfl

namespace Render

/-- Properties that give a string as content. -/
inductive PropsSupply (props : Props) : Supply → Prop
  | children {text : String} (isString : Fields.get? props "children" = some (.string text))
    : PropsSupply props (.value text)
  | inner {fields : Props} {html : String}
    (isObject : Fields.get? props "dangerouslySetInnerHTML" = some (.object fields))
    (isString : Fields.get? fields "__html" = some (.string html))
    : PropsSupply props (.inner html)

/-- The content that such properties give is the string, unless it is an error. -/
theorem PropsSupply.content {props : Props} {supply : Supply} {given : Content}
    (supplies : PropsSupply props supply) (isGiven : Content.ofProps props = .ok given)
    : (∃ text,
        supply = .value text
        ∧ given = .children (.string text)
        ∧ Fields.get? props "children" = some (.string text))
      ∨ ∃ html, supply = .inner html ∧ given = .innerHtml html := by
  cases supplies with
  | @children text isString =>
      simp only [Content.ofProps, isString, Option.bind_some] at isGiven
      split at isGiven
      next => cases isGiven
      next present _ =>
          obtain rfl := Option.some.inj present
          exact .inl ⟨text, rfl, (Except.ok.inj isGiven).symm, isString⟩
      next absent _ => cases absent
      next absent _ => cases absent
  | @inner fields html isObject isString =>
      have isMarkup : Content.innerHtml? (.object fields) = .ok (some html) := by
        simp only [Content.innerHtml?, Value.get?, Value.fields?, Option.bind_some, isString]
        rfl
      simp only [Content.ofProps, isObject, Option.bind_some] at isGiven
      split at isGiven
      next => cases isGiven
      next absent => cases absent
      next inner _ present =>
          obtain rfl := Option.some.inj present
          rw [isMarkup] at isGiven
          exact .inr ⟨html, rfl, (Except.ok.inj isGiven).symm⟩
      next absent => cases absent

/-- The ways in which the content of an element can be one string: between the tags of a node of
a bound template, as literal text or as the only slot, or by the properties of a node without
children or of an element. The spreads of every node that is read are noted.
-/
inductive Subject.Supplies : Subject → Supply → Prop
  | literal {markup : Markup} {top leadNewline : Bool} {opened : Node} {text : String}
    (notVoid : opened.isVoid = false)
    : Supplies (.node markup top leadNewline (.branch opened [.text text])) (.literal text)
  | slot {markup : Markup} {top leadNewline : Bool} {opened : Node} {slot : Nat} {text : String}
    (notVoid : opened.isVoid = false)
    (isString : markup.values.getD slot .undefined = .string text)
    : Supplies (.node markup top leadNewline (.branch opened [.slot slot])) (.value text)
  | node {markup : Markup} {top leadNewline : Bool} {opened : Node} {supply : Supply}
    (noted : opened.spreads = Attribute.notes opened.attributes)
    (given : PropsSupply (opened.props markup.values) supply)
    : Supplies (.node markup top leadNewline (.branch opened [])) supply
  | host {tag : String} {props : Props} {supply : Supply} (given : PropsSupply props supply)
    : Supplies (.host tag props) supply

/-- What is written at a place is an element with this markup between its tags. -/
def Place.Encloses (place : Place) (tag : String) (between : List Piece) : Prop :=
  ∃ attributes mark,
    (mark = [] ∨ mark = [.rootMarker])
    ∧ place.start.Adds place.finish
        (.openTag tag :: List.map Piece.ofAttribute attributes ++ mark
          ++ .openEnd :: between ++ [.closeTag tag])

-----------------------------------------------------------------------------------------
-- Strings that have been written
-----------------------------------------------------------------------------------------

section

variable {cx : RenderSettings} {paired : Prop} {steps : List Step} {subjects : List Subject}
  {start finish : Progress} {text : String}

/-- A text that does not follow another one is written without a separator. -/
theorem Progress.writeText_apart (options : RenderOptions) (text : String)
    (apart : endsInText start.output = false)
    : start.writeText options text = start.write (.text (Text.escape text)) := by
  simp [writeText, write, apart]

theorem Progress.write_apart {piece : Piece} (notText : piece.isText = false)
    : endsInText (start.write piece).output = false := by
  cases piece <;> first | rfl | cases notText
  all_goals simp [endsInText, write]

/-- The extra line feed has been written if it is due. -/
theorem Rendering.lineFeed (apart : endsInText start.output = false) {due : Bool}
    (rendering
      : Rendering cx paired (Step.lineFeed due (.string text) ++ steps) subjects start finish)
    : ∃ feed middle,
        feed = (if due && startsWithNewline text then [.raw "\n"] else [])
        ∧ start.Adds middle feed
        ∧ endsInText middle.output = false
        ∧ Rendering cx paired steps subjects middle finish := by
  have rendering
      : Rendering cx paired
          ((if due && startsWithNewline text then [.write (.raw "\n")] else []) ++ steps) subjects
          start finish :=
    rendering
  split at rendering
  next isDue =>
      cases rendering with
      | write rendering =>
          exact ⟨_, _, (if_pos isDue).symm, .write _ start, Progress.write_apart rfl, rendering⟩
  next notDue => exact ⟨[], start, (if_neg notDue).symm, .refl start, apart, rendering⟩

/-- An open tag that is compiled inline has been written, and the steps behind it. -/
theorem Rendering.opening {markup : Markup} {opened : Node} {tag : String} {top : Bool}
    (notSelect : tag ≠ "select")
    (rendering
      : Rendering cx paired (Step.opening markup opened tag top ++ steps) subjects start finish)
    : ∃ pieces mark middle,
        WrittenAttribute.ofProps ((opened.emissions markup.values).map Emission.field)
            opened.isCustom
          = .ok pieces
        ∧ (mark = [] ∨ mark = [.rootMarker])
        ∧ start.Adds middle (.openTag tag :: pieces ++ mark)
        ∧ Rendering cx paired steps subjects middle finish := by
  simp only [Step.opening, if_neg notSelect, List.cons_append, List.append_assoc] at rendering
  cases rendering with
  | write rendering =>
      obtain ⟨pieces, middle, written, adds, rendering⟩ := rendering.attributes
      have begins := (Progress.Adds.write (.openTag tag) start).trans adds
      cases top with
      | true =>
          cases rendering with
          | rootMarker rendering =>
              obtain ⟨mark, isMark, adds'⟩ := Progress.Adds.markRoot cx.options middle
              exact ⟨pieces, mark, _, written, isMark, begins.trans adds', rendering⟩
      | false => exact ⟨pieces, [], middle, written, .inl rfl, by simpa using begins, rendering⟩

end

/-- Steps that write some markup wherever no text stands right before them. -/
def Yields (cx : RenderSettings) (paired : Prop) (inner : List Step) (markup : String) : Prop :=
  ∀ ⦃steps : List Step⦄ ⦃subjects : List Subject⦄ ⦃start finish : Progress⦄,
    endsInText start.output = false
    → Rendering cx paired (inner ++ steps) subjects start finish
    → ∃ pieces middle others,
        Piece.renderAll pieces = markup
        ∧ start.Adds middle pieces
        ∧ Rendering cx paired steps others middle finish

namespace Yields

variable {cx : RenderSettings} {paired : Prop} {inner : List Step} {markup : String}
  {around : Surroundings} {subject : Subject}

theorem nothing : Yields cx paired [] "" :=
  fun _ _ start _ _ rendering => ⟨[], start, _, rfl, .refl start, rendering⟩

theorem raw (markup : String) : Yields cx paired [.write (.raw markup)] markup := by
  intro steps subjects start finish apart rendering
  cases rendering with
  | write rendering =>
      exact ⟨_, _, _, by simp [Piece.renderAll, Piece.render], .write _ start, rendering⟩

theorem text (text : String) : Yields cx paired [.text text] (Text.escape text) := by
  intro steps subjects start finish apart rendering
  cases rendering with
  | text rendering =>
      rw [Progress.writeText_apart _ _ apart] at rendering
      exact ⟨_, _, _, by simp [Piece.renderAll, Piece.render], .write _ start, rendering⟩

theorem texts (text : String) : Yields cx paired (Step.texts text) (Text.escape text) := by
  simp only [Step.texts]
  split
  next isEmpty =>
      obtain rfl := String.isEmpty_iff.mp isEmpty
      exact nothing
  next => exact Yields.text text

/-- What is inside writes what its steps write. -/
theorem inside (yields : ∀ here, Yields cx paired (stepsOf cx.host here subject) markup)
    : Yields cx paired [.inside around subject] markup := by
  intro steps subjects start finish apart rendering
  cases rendering with
  | @inside _ here _ _ _ _ _ _ _ agrees within rest =>
      rw [← List.append_nil (stepsOf cx.host here subject)] at within
      obtain ⟨pieces, middle, _, isMarkup, adds, done⟩ := yields here apart within
      cases done
      exact ⟨pieces, _, _, isMarkup, adds, rest⟩

theorem string (text : String)
    : Yields cx paired [.inside around (.value (.string text))] (Text.escape text) :=
  inside fun _ => texts text

/-- A line feed comes before a string that begins with one. -/
theorem fed {supply : Supply} (yields : Yields cx paired inner supply.body)
    : Yields cx paired (Step.lineFeed true (.string supply.string) ++ inner) supply.kept := by
  intro steps subjects start finish apart rendering
  rw [List.append_assoc] at rendering
  obtain ⟨feed, middle, rfl, adds, apart, rendering⟩ := rendering.lineFeed apart
  obtain ⟨pieces, middle', others, isBody, adds', rendering⟩ := yields apart rendering
  refine ⟨_, middle', others, ?_, adds.trans adds', rendering⟩
  rw [Piece.renderAll_append, isBody, Supply.kept, Bool.true_and]
  split <;> simp [Piece.renderAll, Piece.render]

/-- The content that properties give is written with its line feed, where one is lost. -/
theorem content {tag : String} {props : Props} {supply : Supply} {given : Content}
    {children : List Step} (eats : Html.eatsNewline tag = true)
    (supplies : PropsSupply props supply)
    (inside
      : ∀ text,
          Fields.get? props "children" = some (.string text)
          → Yields cx paired children (Text.escape text))
    (isGiven : Content.ofProps props = .ok given)
    : Yields cx paired (Step.content tag given children) supply.kept := by
  rcases supplies.content isGiven with ⟨text, rfl, rfl, isString⟩ | ⟨html, rfl, rfl⟩
  · rw [Step.content, eats]
    exact @fed _ _ _ (.value text) (inside text isString)
  · rw [Step.content, eats]
    exact @fed _ _ _ (.inner html) (raw html)

/-- Children that are a string are rendered as a text. -/
theorem optional {found : Option Value} {text : String} (isString : found = some (.string text))
    : Yields cx paired (Step.optional around found) (Text.escape text) := by
  subst isString
  exact string text

end Yields

-----------------------------------------------------------------------------------------
-- Places of elements
-----------------------------------------------------------------------------------------

variable {cx : RenderSettings} {paired : Prop} {place : Place} {subjects : List Subject}
  {tag : String} {props : Props} {supply : Supply}

/-- An element has between its tags what the steps between them write. -/
theorem Place.encloses_of {inner : List Step} {markup : String}
    {attributes : List (String × String)} {mark : List Piece} {middle : Progress}
    (isMark : mark = [] ∨ mark = [.rootMarker])
    (adds : place.start.Adds middle (.openTag tag :: attributes.map Piece.ofAttribute ++ mark))
    (yields : Yields cx paired inner markup)
    (rendering
      : Rendering cx paired (.write .openEnd :: inner ++ [.write (.closeTag tag)]) subjects
          middle place.finish)
    : ∃ between, place.Encloses tag between ∧ Piece.renderAll between = markup := by
  obtain ⟨selection, around, subject, start, finish⟩ := place
  cases rendering with
  | write rendering =>
      obtain ⟨between, last, others, isMarkup, adds', rendering⟩ :=
        yields (Progress.write_apart rfl) rendering
      cases rendering with
      | write rendering =>
          cases rendering
          refine ⟨between, ⟨attributes, mark, isMark, ?_⟩, isMarkup⟩
          change start.Adds (last.write (.closeTag tag)) _
          have opens := adds.trans (Progress.Adds.write .openEnd middle)
          have closes := (opens.trans adds').trans (Progress.Adds.write (.closeTag tag) last)
          simpa only [List.append_assoc, List.cons_append, List.nil_append] using closes

/-- An element that is rendered from its properties and that is not void. -/
theorem Place.encloses_element {children : List Step} {markup : String}
    (notVoid : Html.isVoid tag = false)
    (yields
      : ∀ given,
          Content.ofProps props = .ok given
          → Yields cx paired (Step.content tag given children) markup)
    (rendering
      : Rendering cx paired (Step.element tag props children) subjects place.start place.finish)
    : ∃ between, place.Encloses tag between ∧ Piece.renderAll between = markup := by
  obtain ⟨pieces, mark, middle, given, written, isMark, adds, isGiven, rendering⟩ :=
    rendering.element
  obtain ⟨attributes, rfl⟩ := WrittenAttribute.ofProps_attributes written
  rw [notVoid, if_neg Bool.false_ne_true] at rendering
  exact encloses_of isMark adds (yields given isGiven) rendering

/-- An element that is compiled inline and that is not void. -/
theorem Place.encloses_inline {around : Surroundings} {markup : Markup} {top : Bool}
    {opened : Node} {nested : List Child} {text : String} (notSelect : tag ≠ "select")
    (notVoid : opened.isVoid = false)
    (yields
      : let inner := around.enter tag (Step.ownProps markup opened)
        Yields cx paired
          (if nested.isEmpty then
            Step.given inner markup opened tag
          else
            Step.children inner markup false (nested.length == 1 && Html.eatsNewline tag) nested)
          text)
    (rendering
      : Rendering cx paired (Step.inline around markup top opened tag nested) subjects place.start
          place.finish)
    : ∃ between, place.Encloses tag between ∧ Piece.renderAll between = text := by
  simp only [Step.inline, notVoid, Bool.false_eq_true, if_false] at rendering
  obtain ⟨pieces, mark, middle, written, isMark, adds, rendering⟩ := rendering.opening notSelect
  obtain ⟨attributes, rfl⟩ := WrittenAttribute.ofProps_attributes written
  exact encloses_of isMark adds yields rendering

/-- A `textarea` has its text between its tags. -/
theorem Place.encloses_textarea
    (made
      : Rendering cx paired (stepsOf cx.host place.around place.subject) subjects place.start
          place.finish)
    (isTextarea : place.subject.element? = some ("textarea", props))
    : ∃ between,
        place.Encloses "textarea" between
        ∧ Piece.renderAll between = (Supply.value (FormControl.textareaText props)).kept := by
  rw [stepsOf_control _ _ isTextarea rfl] at made
  have supplies : PropsSupply (FormControl.textareaProps props)
      (.value (FormControl.textareaText props)) :=
    .children (by rw [FormControl.textareaProps, Fields.get?_insert, if_pos rfl])
  refine Place.encloses_element (by decide +kernel) (fun given => ?_) made
  refine Yields.content (by decide +kernel) supplies fun text isString => ?_
  rw [FormControl.textareaProps, Fields.get?_insert, if_pos rfl] at isString
  exact Value.string.inj (Option.some.inj isString) ▸ Yields.texts _

theorem PropsSupply.written (supplies : PropsSupply props supply)
    : supply.written = supply.kept := by
  cases supplies <;> rfl

/-- Properties that give a string give it to an element that is compiled inline, or it fails. -/
theorem PropsSupply.given {markup : Markup} {opened : Node} (around : Surroundings)
    (tag : String) (noted : opened.spreads = Attribute.notes opened.attributes)
    (supplies : PropsSupply (opened.props markup.values) supply)
    : (∃ error, Step.given around markup opened tag = [.fail error])
      ∨ (opened.isVoid = false
        ∧ ∃ found,
            Content.ofProps (opened.props markup.values) = .ok found
            ∧ Step.given around markup opened tag
              = Step.content tag found
                  (Step.optional around
                    (Fields.get? (opened.props markup.values) "children"))) := by
  have sourced : opened.hasContentSource = true := by
    simp only [Node.hasContentSource, Bool.or_eq_true]
    cases supplies with
    | children isString =>
        exact .inl (Node.hasSource noted isString (by simp))
    | inner isObject isString =>
        rcases Node.hasSource noted isObject (by simp) with spread | named
        · exact .inl (.inl spread)
        · exact .inr named
  have notNothing : Content.ofProps (opened.props markup.values) ≠ .ok .nothing := by
    intro isNothing
    rcases supplies.content isNothing with ⟨_, -, given, -⟩ | ⟨_, -, given⟩
    · cases given
    · cases given
  simp only [Step.given, sourced, if_true]
  split
  next error _ => exact .inl ⟨error, rfl⟩
  next isNothing => exact absurd isNothing notNothing
  next found _ isFound =>
      split
      · exact .inl ⟨_, rfl⟩
      · next notVoid => exact .inr ⟨by simpa using notVoid, found, isFound, rfl⟩

/-- An element that loses a leading line feed has one string between its tags, with another line
feed before it unless it is literal.
-/
theorem Place.encloses_supply
    (made
      : Rendering cx paired (stepsOf cx.host place.around place.subject) subjects place.start
          place.finish)
    (isElement : place.subject.element? = some (tag, props)) (isLine : tag ∈ ["pre", "listing"])
    (supplies : place.subject.Supplies supply)
    : ∃ between, place.Encloses tag between ∧ Piece.renderAll between = supply.written := by
  have plain
      : ∀ tag ∈ ["pre", "listing"],
          Html.eatsNewline tag = true
          ∧ Program.isFormControl tag = false
          ∧ tag ≠ "select"
          ∧ Html.isVoid tag = false := by
    decide +kernel
  obtain ⟨eats, notControl, notSelect, notVoid⟩ := plain tag isLine
  obtain ⟨selection, around, subject, start, finish⟩ := place
  have inline {markup : Markup} {top leadNewline : Bool} {opened : Node} {nested : List Child}
      (isElement
        : (Subject.node markup top leadNewline (.branch opened nested)).element?
          = some (tag, props))
      : stepsOf cx.host around (.node markup top leadNewline (.branch opened nested))
        = Step.inline around markup top opened tag nested := by
    obtain ⟨other, isName, same⟩ := Option.map_eq_some_iff.mp isElement
    obtain ⟨rfl, -⟩ := Prod.mk.inj same
    simp only [stepsOf, Step.branch, Node.tag_of_elementName? isName, notControl,
      Bool.false_eq_true, if_false]
  cases supplies with
  | literal nodeNotVoid =>
      simp only [inline isElement] at made
      exact @Place.encloses_inline _ _ ⟨_, _, _, _, _⟩ _ _ _ _ _ _ _ _ notSelect nodeNotVoid
        (.inside fun _ => .text _) made
  | slot nodeNotVoid isString =>
      simp only [inline isElement] at made
      refine @Place.encloses_inline _ _ ⟨_, _, _, _, _⟩ _ _ _ _ _ _ _ _ notSelect nodeNotVoid
        (.inside fun here => ?_) made
      simp only [stepsOf, isString, List.length_singleton, BEq.rfl, Bool.true_and, eats]
      exact @Yields.fed _ _ _ (.value _) (.string _)
  | @node markup top leadNewline opened _ noted supplies =>
      simp only [inline isElement] at made
      rw [supplies.written]
      rcases supplies.given (around.enter tag (Step.ownProps markup opened)) tag noted with
        ⟨error, fails⟩ | ⟨nodeNotVoid, found, isFound, gives⟩
      · simp only [Step.inline, List.isEmpty_nil, if_true, fails] at made
        obtain ⟨_, _, _, -, -, -, made⟩ := made.opening notSelect
        split at made
        · nomatch made
        · cases made with
          | write made => nomatch made
      · refine @Place.encloses_inline _ _ ⟨_, _, _, _, _⟩ _ _ _ _ _ _ _ _ notSelect nodeNotVoid
          ?_ made
        change Yields cx paired (Step.given _ _ _ tag) supply.kept
        rw [gives]
        exact Yields.content eats supplies (fun text => Yields.optional) isFound
  | @host other given _ supplies =>
      obtain ⟨rfl, rfl⟩ := Prod.mk.inj (Option.some.inj isElement)
      simp only [stepsOf, Step.host, notControl, Bool.false_eq_true, if_false, notSelect] at made
      rw [supplies.written]
      exact @Place.encloses_element _ _ ⟨_, _, _, _, _⟩ _ _ _ _ _ notVoid
        (fun found => Yields.content eats supplies fun text => Yields.optional) made

/-- Wherever a `pre` or a `listing` is rendered whose content is one string, it has between its
tags the string, with another line feed before it if it begins with one. The exception is literal
text of a template, which keeps the line feed that it begins with and gets no other. A `textarea`
never loses one.
-/
theorem renderValue_feeds
    (keeps : cx.host.Keeps (Value.Among (Compiled.Fit cx.settings)) fun _ => True) {value : Value}
    (fit : Value.Among (Compiled.Fit cx.settings) value) (remaining : Nat)
    {before reached : RenderState}
    (ready : Ready cx (Value.Among (Compiled.Fit cx.settings)) before)
    (rendered : renderValue cx (invoke cx remaining) value before = (.ok (), reached))
    (outer : Option Props)
    : let steps : List Step := [.inside (before.around cx.host) (.value value)]
      (∃ places,
        Traced cx cx.settings.LeavesSelections outer steps places before.progress
          reached.progress)
      ∧ ∀ places,
          Traced cx cx.settings.LeavesSelections outer steps places before.progress
            reached.progress
          → ∀ place ∈ places, ∀ props,
            (∀ tag ∈ ["pre", "listing"], ∀ supply,
              place.subject.element? = some (tag, props)
              → place.subject.Supplies supply
              → ∃ between,
                  place.Encloses tag between
                  ∧ (Piece.renderAll between = supply.kept ↔ ¬supply.IsLiteralFeed)
                  ∧ (supply.IsLiteralFeed → Piece.renderAll between = supply.body))
            ∧ (place.subject.element? = some ("textarea", props)
              → ∃ between,
                  place.Encloses "textarea" between
                  ∧ Piece.renderAll between
                    = (Supply.value (FormControl.textareaText props)).kept) := by
  intro steps
  refine ⟨traced_render keeps fit remaining ready rendered outer, ?_⟩
  intro places traced place member props
  obtain ⟨_, made⟩ := traced.made place member
  refine ⟨?_, Place.encloses_textarea made⟩
  intro tag isLine supply isElement supplies
  obtain ⟨between, encloses, isWritten⟩ := Place.encloses_supply made isElement isLine supplies
  refine ⟨between, encloses, ?_, ?_⟩
  · rw [isWritten]
    exact supply.written_eq_kept
  · intro isFeed
    cases supply with
    | literal text => exact isWritten
    | value | inner => exact isFeed.elim

/-- Strings that begin with a line feed as children, as markup and as a default. -/
theorem renderValue_feeds_three
    : let cx : RenderSettings := { settings := {}, options := {}, host := .children }
      let element (tag : String) (props : Props) : Value :=
        .element ⟨0, none, .host tag, none, none, props⟩
      let value : Value :=
        .array
          [element "pre" [("children", .string "\n<")],
            element "listing"
              [("dangerouslySetInnerHTML", .object [("__html", .string "\n<b>")])],
            element "textarea" [("defaultValue", .string "\n"), ("children", .null)],
            element "pre" [("children", .string "x\n")]]
      let before : RenderState := { store := {} }
      ∃ reached places,
        renderValue cx (invoke cx 1) value before = (.ok (), reached)
        ∧ Piece.renderAll reached.output.toList
          = "<pre data-reactroot=\"\">\n\n&lt;</pre><listing>\n\n<b></listing>"
            ++ "<textarea>\n\n</textarea><pre>x\n</pre>"
        ∧ Traced cx cx.settings.LeavesSelections none
            [.inside (before.around cx.host) (.value value)] places before.progress
            reached.progress
        ∧ ∀ place ∈ places, ∀ props,
            place.subject.element? = some ("textarea", props)
            → ∃ between,
                place.Encloses "textarea" between
                ∧ Piece.renderAll between
                  = (Supply.value (FormControl.textareaText props)).kept := by
  intro cx element value before
  have keeps : cx.host.Keeps (Value.Among (Compiled.Fit cx.settings)) fun _ => True :=
    Host.keeps_children .undefined
  have isElement (tag : String) {props : Props}
      (inside : ∀ field ∈ props, Value.Among (Compiled.Fit cx.settings) field.2)
      : Value.Among (Compiled.Fit cx.settings) (element tag props) :=
    .element inside (by simp)
  have isPre (text : String)
      : Value.Among (Compiled.Fit cx.settings) (element "pre" [("children", .string text)]) :=
    isElement "pre" (by simpa using .string text)
  have isListing := @isElement "listing"
    [("dangerouslySetInnerHTML", .object [("__html", .string "\n<b>")])]
    (by simpa using .object (by simpa using .string "\n<b>"))
  have isTextarea := @isElement "textarea" [("defaultValue", .string "\n"), ("children", .null)]
    (by simpa using ⟨.string "\n", .null⟩)
  have fit : Value.Among (Compiled.Fit cx.settings) value :=
    .array (by simpa using ⟨isPre "\n<", isListing, isTextarea, isPre "x\n"⟩)
  have ready : Ready cx (Value.Among (Compiled.Fit cx.settings)) before :=
    .start (fun _ _ read => read) _
  have checked
      : (renderValue cx (invoke cx 1) value before).1 = .ok ()
        ∧ Piece.renderAll (renderValue cx (invoke cx 1) value before).2.output.toList
          = "<pre data-reactroot=\"\">\n\n&lt;</pre><listing>\n\n<b></listing>"
            ++ "<textarea>\n\n</textarea><pre>x\n</pre>" := by
    decide +kernel
  obtain ⟨reached, outcome, writes⟩ :=
    exists_of_apply (fun reached => Piece.renderAll reached.output.toList) checked
  obtain ⟨⟨places, traced⟩, all⟩ := renderValue_feeds keeps fit 1 ready outcome none
  exact ⟨reached, places, outcome, writes, traced,
    fun place member props => (all places traced place member props).2⟩

end Render

/-- The literal text of a template that begins with a line feed loses it, while the element that
the template is made into keeps it.
-/
theorem Engine.literal_feed_lost
    : let engine := Engine.ofOptions {}
      let host := Host.constant fun _ => .undefined
      let template : Template := ⟨0, ["<pre>&#10;x</pre>"]⟩
      (engine.render host false template []).1 = .ok "<pre data-reactroot=\"\">\nx</pre>"
      ∧ engine.renderElements host false template []
        = .ok "<pre data-reactroot=\"\">\n\nx</pre>" := by
  decide +kernel

end TaggedMarkup
