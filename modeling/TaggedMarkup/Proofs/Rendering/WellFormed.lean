import TaggedMarkup.Proofs.Rendering.Document
import TaggedMarkup.Proofs.Rendering.Following
import TaggedMarkup.Proofs.Session

/-! What is rendered is well-formed markup, whatever the values are. The steps of a subject open
and close tags in pairs, and what is rendered between two of them is well-formed by itself.
-/

namespace TaggedMarkup

open Stateful

namespace Piece

/-- No markup is written as a value gives it, apart from the line feeds that renders add. -/
def NoInnerHtml (pieces : List Piece) : Prop :=
  ∀ markup, .raw markup ∈ pieces → markup = "\n"

theorem NoInnerHtml.left {pieces others : List Piece} (none : NoInnerHtml (pieces ++ others))
    : NoInnerHtml pieces :=
  fun markup member => none markup (List.mem_append_left _ member)

theorem NoInnerHtml.right {pieces others : List Piece} (none : NoInnerHtml (pieces ++ others))
    : NoInnerHtml others :=
  fun markup member => none markup (List.mem_append_right _ member)

theorem NoInnerHtml.tail {piece : Piece} {pieces : List Piece}
    (none : NoInnerHtml (piece :: pieces))
    : NoInnerHtml pieces :=
  fun markup member => none markup (List.mem_cons_of_mem _ member)

theorem renderAll_cons (piece : Piece) (rest : List Piece)
    : renderAll (piece :: rest) = piece.render ++ renderAll rest := by
  have shift (written : String) (pieces : List Piece)
      : pieces.foldl (fun written piece => written ++ piece.render) written
        = written ++ renderAll pieces := by
    simp only [renderAll]
    induction pieces generalizing written with
    | nil => simp
    | cons piece rest ih =>
        simp only [List.foldl_cons]
        rw [ih (written ++ piece.render), ih ("" ++ piece.render)]
        simp [String.append_assoc]
  rw [renderAll, List.foldl_cons, shift, String.empty_append]

theorem renderAll_append (pieces others : List Piece)
    : renderAll (pieces ++ others) = renderAll pieces ++ renderAll others := by
  induction pieces with
  | nil => simp [renderAll]
  | cons piece rest ih => simp only [List.cons_append, renderAll_cons, ih, String.append_assoc]

end Piece

namespace Render

-----------------------------------------------------------------------------------------
-- Steps that come in pairs
-----------------------------------------------------------------------------------------

/-- The tag of an element. -/
def Subject.tag? : Subject → Option String
  | .host tag _ => some tag
  | .node _ _ _ (.branch opened _) => opened.elementName?
  | _ => none

/-- The tag is that of an element among some subjects. -/
def TagAmong (subjects : List Subject) (tag : String) : Prop :=
  ∃ subject ∈ subjects, subject.tag? = some tag

/-- A step that may stand in an open tag. -/
inductive Step.InTag : Step → Prop
  | write {piece : Piece} (safe : piece.SafeAttribute) : Step.InTag (.write piece)
  | rootMarker : Step.InTag .rootMarker
  | fail (error : Error) : Step.InTag (.fail error)

/-- Steps that open and close tags in pairs. Nothing follows a failure, so what stands behind one
does not matter.
-/
inductive Balanced (tags : String → Prop) : List Step → Prop
  | nil : Balanced tags []
  | text {text : String} {steps : List Step} (others : Balanced tags steps)
    : Balanced tags (.text text :: steps)
  | raw {markup : String} {steps : List Step} (others : Balanced tags steps)
    : Balanced tags (.write (.raw markup) :: steps)
  | fail {error : Error} {steps : List Step} : Balanced tags (.fail error :: steps)
  | run {around : Surroundings} {body : Body Value} {steps : List Step}
    (others : Balanced tags steps)
    : Balanced tags (.run around body :: steps)
  | inside {around : Surroundings} {subject : Subject} {steps : List Step}
    (others : Balanced tags steps)
    : Balanced tags (.inside around subject :: steps)
  | element {tag : String} {given inner steps : List Step} (isTag : tags tag)
    (inTag : ∀ step ∈ given, step.InTag) (inside : Balanced tags inner)
    (others : Balanced tags steps)
    : Balanced tags
        (.write (.openTag tag) :: given
          ++ (.write .openEnd :: inner ++ (.write (.closeTag tag) :: steps)))
  | void {tag : String} {given steps : List Step} (isTag : tags tag)
    (inTag : ∀ step ∈ given, step.InTag) (others : Balanced tags steps)
    : Balanced tags (.write (.openTag tag) :: given ++ (.write .selfClose :: steps))

namespace Balanced

variable {tags : String → Prop} {tag : String} {given inner steps more : List Step}

theorem append (first : Balanced tags steps) (rest : Balanced tags more)
    : Balanced tags (steps ++ more) := by
  induction first with
  | nil => exact rest
  | text _ ih => exact .text ih
  | raw _ ih => exact .raw ih
  | fail => exact .fail
  | run _ ih => exact .run ih
  | inside _ ih => exact .inside ih
  | element isTag inTag inside _ _ ih =>
      simpa only [List.append_assoc, List.cons_append] using Balanced.element isTag inTag inside ih
  | void isTag inTag _ ih =>
      simpa only [List.append_assoc, List.cons_append] using Balanced.void isTag inTag ih

theorem around (isTag : tags tag) (inTag : ∀ step ∈ given, step.InTag)
    (inside : Balanced tags inner)
    : Balanced tags
        (.write (.openTag tag) :: given
          ++ (.write .openEnd :: inner ++ [.write (.closeTag tag)])) :=
  .element isTag inTag inside .nil

/-- Steps that only render subjects inside. -/
theorem insides {α : Type} (around : Surroundings) (subject : α → Subject) (items : List α)
    : Balanced tags (items.map fun item => .inside around (subject item)) := by
  induction items with
  | nil => exact .nil
  | cons item rest ih => exact .inside ih

theorem optional (around : Surroundings) (value : Option Value)
    : Balanced tags (Step.optional around value) :=
  insides around .value value.toList

theorem texts (text : String) : Balanced tags (Step.texts text) := by
  simp only [Step.texts]
  split
  · exact .nil
  · exact .text .nil

theorem lineFeed (leadNewline : Bool) (value : Value)
    : Balanced tags (Step.lineFeed leadNewline value) := by
  simp only [Step.lineFeed]
  split
  · exact .raw .nil
  · exact .nil

theorem content (tag : String) (content : Content) (inside : Balanced tags inner)
    : Balanced tags (Step.content tag content inner) := by
  cases content with
  | nothing => exact .nil
  | innerHtml markup => exact (lineFeed _ _).append (.raw .nil)
  | children value => exact (lineFeed _ _).append inside

end Balanced

/-- The steps that write properties may stand in an open tag. -/
theorem Step.inTag_attributes (props : List (String × Value)) (custom : Bool)
    : ∀ step ∈ Step.attributes (WrittenAttribute.ofProps props custom), step.InTag := by
  intro step member
  cases written : WrittenAttribute.ofProps props custom with
  | error error =>
      rw [written] at member
      obtain rfl := List.mem_singleton.mp member
      exact .fail error
  | ok pieces =>
      rw [written] at member
      obtain ⟨piece, isPiece, rfl⟩ := List.mem_map.mp member
      exact .write (WrittenAttribute.safe_ofProps written piece isPiece)

theorem Step.inTag_append {steps more : List Step} (first : ∀ step ∈ steps, step.InTag)
    (rest : ∀ step ∈ more, step.InTag)
    : ∀ step ∈ steps ++ more, step.InTag := by
  intro step member
  rcases List.mem_append.mp member with early | late
  · exact first step early
  · exact rest step late

namespace Balanced

variable {tags : String → Prop} {tag : String} {inner : List Step}

/-- An element that is rendered from its properties. -/
theorem ofElement (isTag : tags tag) (props : Props) (inside : Balanced tags inner)
    : Balanced tags (Step.element tag props inner) := by
  have inTag
      : ∀ step ∈
            Step.attributes
              (WrittenAttribute.ofProps props
                (Html.isCustomTag tag || Fields.contains props "is"))
            ++ [.rootMarker],
          step.InTag :=
    Step.inTag_append (Step.inTag_attributes _ _) (by simpa using .rootMarker)
  simp only [Step.element]
  split
  · exact .fail
  split
  · exact .fail
  · split
    · exact .void isTag inTag .nil
    · exact .around isTag inTag (.content tag _ inside)

theorem ofControl (isTag : tags tag) (selection : Option Value) (props : Props)
    : Balanced tags (Step.control selection tag props) := by
  simp only [Step.control]
  split
  · exact ofElement isTag _ .nil
  split
  · exact ofElement isTag _ (texts _)
  · exact ofElement isTag _ (texts _)

theorem ofHost (isTag : tags tag) (around : Surroundings) (props : Props)
    : Balanced tags (Step.host around tag props) := by
  simp only [Step.host]
  split
  · exact ofControl isTag _ _
  split
  · exact ofElement isTag _ (optional _ _)
  · exact ofElement isTag _ (optional _ _)

variable {markup : Markup} {node : Node}

/-- The beginning of an element that is compiled inline writes its name and attributes. -/
theorem opening_eq (markup : Markup) (node : Node) (tag : String) (top : Bool)
    : ∃ given,
        Step.opening markup node tag top = .write (.openTag tag) :: given
        ∧ ∀ step ∈ given, step.InTag := by
  have marker (due : Bool)
      : ∀ step ∈ (if due then [.rootMarker] else [] : List Step), step.InTag := by
    cases due with
    | true => simpa using .rootMarker
    | false => simp
  simp only [Step.opening]
  split
  · exact ⟨_, rfl, Step.inTag_append (Step.inTag_attributes _ _) (marker true)⟩
  · exact ⟨_, rfl, Step.inTag_append (Step.inTag_attributes _ _) (marker top)⟩

/-- Content that attributes give stands between tags. -/
theorem given (around : Surroundings) (markup : Markup) (node : Node) (tag : String)
    : Balanced tags (Step.given around markup node tag) := by
  simp only [Step.given]
  split
  next =>
      split
      · exact .fail
      · exact .nil
      · split
        · exact .fail
        · exact .content tag _ (optional _ _)
  next => exact .nil

/-- A void element is given no content. -/
theorem given_void (around : Surroundings) (markup : Markup) (node : Node) (tag : String)
    (isVoid : node.isVoid = true)
    : ∀ step ∈ Step.given around markup node tag, step.InTag := by
  simp only [Step.given, isVoid, if_true]
  split
  next =>
      split
      · simpa using .fail _
      · simp
      · simpa using .fail _
  next => simp

/-- An element that is compiled inline. -/
theorem ofInline (isTag : tags tag) (around : Surroundings) (markup : Markup) (top : Bool)
    (node : Node) (nested : List Child)
    : Balanced tags (Step.inline around markup top node tag nested) := by
  obtain ⟨attributes, opens, inTag⟩ := opening_eq markup node tag top
  simp only [Step.inline, opens]
  split
  next isVoid =>
      have noContent :=
        given_void (around.enter tag (Step.ownProps markup node)) markup node tag isVoid
      have whole := Balanced.void isTag (Step.inTag_append inTag noContent) .nil
      simpa only [List.append_assoc, List.cons_append] using whole
  next =>
      refine .around isTag inTag ?_
      split
      · exact given _ _ _ _
      · exact insides _ (.node markup false _) nested

/-- The steps of a subject open no other tags than its own, and they close them. -/
theorem ofSubject (host : Host) (around : Surroundings) (subject : Subject)
    (own : ∀ tag, subject.tag? = some tag → tags tag)
    : Balanced tags (stepsOf host around subject) := by
  cases subject with
  | host tag props => exact ofHost (own tag rfl) around props
  | value value =>
      cases value with
      | undefined | null | bool | function | symbol => exact .nil
      | string text => exact texts text
      | number | object => exact .text .nil
      | array items => exact insides around .value items
      | element element =>
          obtain ⟨serial, part, kind, key, reference, props⟩ := element
          cases kind with
          | host | component => exact .inside .nil
          | fragment => exact optional _ _
      | markup markup => exact insides around (.node markup true false) _
  | component component props reference =>
      cases component with
      | function | stateful | forwardRef => exact .run .nil
      | memo | «alias» => exact .inside .nil
      | provider | fragment => exact optional _ _
      | consumer context =>
          simp only [stepsOf, componentSteps]
          split
          · exact .run .nil
          · exact .fail
  | node markup top leadNewline child =>
      cases child with
      | text text => exact .text .nil
      | slot slot => exact (lineFeed _ _).append (.inside .nil)
      | branch node nested =>
          simp only [stepsOf, Step.branch]
          split
          next => exact insides around (.node markup top false) nested
          next => exact insides around (fun component => .component component _ _) _
          next tag isElement =>
              have isTag := own tag (Node.elementName?_element isElement)
              split
              · exact ofControl isTag _ _
              · exact ofInline isTag around markup top node nested

end Balanced

-----------------------------------------------------------------------------------------
-- Steps with what they write
-----------------------------------------------------------------------------------------

/-- What is rendered inside is well-formed if no markup in it is written as a value gives it. -/
def WellFormed (tags : String → Prop) (pieces : List Piece) : Prop :=
  Piece.NoInnerHtml pieces → Document tags (Piece.renderAll pieces)

/-- Steps in a row write pieces in a row. What subjects write is well-formed. -/
inductive Filled (tags : String → Prop) : List Step → List Piece → Prop
  | nil : Filled tags [] []
  | write {piece : Piece} {steps : List Step} {pieces : List Piece}
    (others : Filled tags steps pieces)
    : Filled tags (.write piece :: steps) (piece :: pieces)
  | text {text : String} {before pieces : List Piece} {steps : List Step}
    (apart : before = [] ∨ before = [.separator]) (others : Filled tags steps pieces)
    : Filled tags (.text text :: steps) (before ++ .text (Text.escape text) :: pieces)
  | rootMarker {mark pieces : List Piece} {steps : List Step}
    (optional : mark = [] ∨ mark = [.rootMarker]) (others : Filled tags steps pieces)
    : Filled tags (.rootMarker :: steps) (mark ++ pieces)
  | run {around : Surroundings} {body : Body Value} {inner pieces : List Piece}
    {steps : List Step} (wellFormed : WellFormed tags inner) (others : Filled tags steps pieces)
    : Filled tags (.run around body :: steps) (inner ++ pieces)
  | inside {around : Surroundings} {subject : Subject} {inner pieces : List Piece}
    {steps : List Step} (wellFormed : WellFormed tags inner) (others : Filled tags steps pieces)
    : Filled tags (.inside around subject :: steps) (inner ++ pieces)

namespace Filled

variable {tags : String → Prop} {steps more : List Step} {pieces : List Piece}

theorem mono {wider : String → Prop} (subset : ∀ tag, tags tag → wider tag)
    (filled : Filled tags steps pieces)
    : Filled wider steps pieces := by
  induction filled with
  | nil => exact .nil
  | write _ ih => exact .write ih
  | text apart _ ih => exact .text apart ih
  | rootMarker optional _ ih => exact .rootMarker optional ih
  | run wellFormed _ ih => exact .run (fun none => (wellFormed none).mono subset) ih
  | inside wellFormed _ ih => exact .inside (fun none => (wellFormed none).mono subset) ih

/-- What steps in a row write comes apart where the steps do, by induction on the first ones. -/
theorem split (filled : Filled tags (steps ++ more) pieces)
    : ∃ before after,
        pieces = before ++ after ∧ Filled tags steps before ∧ Filled tags more after := by
  induction steps generalizing pieces with
  | nil => exact ⟨[], pieces, rfl, .nil, filled⟩
  | cons step rest ih =>
      cases filled with
      | write others =>
          obtain ⟨before, after, rfl, start, later⟩ := ih others
          exact ⟨_, after, rfl, .write start, later⟩
      | text apart others =>
          obtain ⟨before, after, rfl, start, later⟩ := ih others
          exact ⟨_, after, by simp, .text apart start, later⟩
      | rootMarker optional others =>
          obtain ⟨before, after, rfl, start, later⟩ := ih others
          exact ⟨_, after, (List.append_assoc ..).symm, .rootMarker optional start, later⟩
      | run wellFormed others =>
          obtain ⟨before, after, rfl, start, later⟩ := ih others
          exact ⟨_, after, (List.append_assoc ..).symm, .run wellFormed start, later⟩
      | inside wellFormed others =>
          obtain ⟨before, after, rfl, start, later⟩ := ih others
          exact ⟨_, after, (List.append_assoc ..).symm, .inside wellFormed start, later⟩

/-- Steps in an open tag write attributes, by induction on them. -/
theorem attributes (filled : Filled tags steps pieces) (inTag : ∀ step ∈ steps, step.InTag)
    : WrittenAttributes (Piece.renderAll pieces) := by
  induction filled with
  | nil => exact .nil
  | @write piece steps pieces _ ih =>
      have others := ih fun step member => inTag step (List.mem_cons_of_mem _ member)
      cases inTag _ (List.mem_cons_self ..) with
      | write safe =>
          cases safe with
          | intro safe escaped =>
              rw [Piece.renderAll_cons]
              exact .cons safe escaped others
  | rootMarker optional _ ih =>
      have others := ih fun step member => inTag step (List.mem_cons_of_mem _ member)
      rcases optional with rfl | rfl
      · exact others
      · rw [List.singleton_append, Piece.renderAll_cons]
        exact @WrittenAttributes.cons "data-reactroot" "" _ (by decide) .nil others
  | text | run | inside => nomatch inTag _ (List.mem_cons_self ..)

/-- Steps that open and close tags in pairs write well-formed markup, by induction on them. -/
theorem document (balanced : Balanced tags steps) (filled : Filled tags steps pieces)
    : WellFormed tags pieces := by
  intro none
  induction balanced generalizing pieces with
  | nil =>
      cases filled
      exact .nil
  | @text literal _ _ ih =>
      cases filled with
      | @text _ before pieces _ apart others =>
          have rest := ih others none.right.tail
          have shown : Document tags (Piece.renderAll (.text (Text.escape literal) :: pieces)) := by
            rw [Piece.renderAll_cons]
            exact .text (Text.escaped_escape literal) rest
          rcases apart with rfl | rfl
          · exact shown
          · rw [List.singleton_append, Piece.renderAll_cons]
            exact .separator shown
  | raw _ ih =>
      cases filled with
      | write others =>
          obtain rfl := none _ (List.mem_cons_self ..)
          rw [Piece.renderAll_cons]
          exact .text (.plain (by decide) .nil) (ih others none.tail)
  | fail => nomatch filled
  | run _ ih =>
      cases filled with
      | run wellFormed others =>
          rw [Piece.renderAll_append]
          exact (wellFormed none.left).append (ih others none.right)
  | inside _ ih =>
      cases filled with
      | inside wellFormed others =>
          rw [Piece.renderAll_append]
          exact (wellFormed none.left).append (ih others none.right)
  | @element tag given inner steps isTag inTag _ _ within rest =>
      obtain ⟨opens, closes, rfl, opening, closing⟩ := filled.split
      obtain ⟨content, ends, rfl, inside, later⟩ := closing.split
      cases opening with
      | write opened =>
      cases inside with
      | write between =>
      cases later with
      | write after =>
          have document := Document.element isTag (opened.attributes inTag)
            (within between none.right.left.tail) (rest after none.right.right.tail)
          simpa only [Piece.renderAll_append, Piece.renderAll_cons, Piece.render,
            String.append_assoc] using document
  | @void tag given steps isTag inTag _ ih =>
      obtain ⟨opens, ends, rfl, opening, later⟩ := filled.split
      cases opening with
      | write opened =>
      cases later with
      | write after =>
          have document :=
            Document.void isTag (opened.attributes inTag) (ih after none.right.tail)
          simpa only [Piece.renderAll_append, Piece.renderAll_cons, Piece.render,
            String.append_assoc] using document

end Filled

-----------------------------------------------------------------------------------------
-- Whole renders
-----------------------------------------------------------------------------------------

theorem TagAmong.mono {subjects more : List Subject}
    (subset : ∀ subject ∈ subjects, subject ∈ more) (tag : String)
    : TagAmong subjects tag → TagAmong more tag :=
  fun ⟨subject, member, isTag⟩ => ⟨subject, subset subject member, isTag⟩

variable {cx : RenderSettings} {paired : Prop}

/-- What a rendering adds to the output fills its steps, by induction on the rendering. -/
theorem Rendering.filled {steps : List Step} {subjects : List Subject} {start finish : Progress}
    (rendering : Rendering cx paired steps subjects start finish)
    : ∃ pieces,
        finish.output.toList = start.output.toList ++ pieces
        ∧ Filled (TagAmong subjects) steps pieces := by
  induction rendering with
  | done => exact ⟨[], (List.append_nil _).symm, .nil⟩
  | write _ ih =>
      obtain ⟨pieces, adds, filled⟩ := ih
      exact ⟨_, by simpa [Progress.write] using adds, .write filled⟩
  | @text text _ _ start _ _ ih =>
      obtain ⟨pieces, adds, filled⟩ := ih
      cases due : endsInText start.output && !cx.options.staticMarkup with
      | true =>
          refine ⟨_, ?_, .text (.inr rfl) filled⟩
          simpa [Progress.writeText, due] using adds
      | false =>
          refine ⟨_, ?_, .text (.inl rfl) filled⟩
          simpa [Progress.writeText, due] using adds
  | @rootMarker _ _ start _ _ ih =>
      obtain ⟨pieces, adds, filled⟩ := ih
      cases due : !start.rootMarked && cx.options.rootMarker && !cx.options.staticMarkup with
      | true =>
          refine ⟨_, ?_, .rootMarker (.inr rfl) filled⟩
          simpa [Progress.markRoot, due] using adds
      | false =>
          refine ⟨_, ?_, .rootMarker (.inl rfl) filled⟩
          simpa [Progress.markRoot, due] using adds
  | run _ _ _ ih =>
      obtain ⟨pieces, adds, filled⟩ := ih
      cases filled with
      | inside wellFormed others => exact ⟨_, adds, .run wellFormed others⟩
  | @inside around here subject steps inner later start middle finish _ _ _ within rest =>
      obtain ⟨content, adds, filled⟩ := within
      obtain ⟨others, adds', filled'⟩ := rest
      refine ⟨content ++ others, by rw [adds', adds, List.append_assoc], .inside ?_ ?_⟩
      · have inside : ∀ other ∈ inner, other ∈ subject :: inner ++ later := by simp +contextual
        have balanced :=
          Balanced.ofSubject cx.host here subject fun tag isTag =>
            (⟨subject, by simp, isTag⟩ : TagAmong (subject :: inner ++ later) tag)
        exact (filled.mono (TagAmong.mono inside)).document balanced
      · have after : ∀ other ∈ later, other ∈ subject :: inner ++ later := by simp +contextual
        exact filled'.mono (TagAmong.mono after)

/-- Rendering a value from a store makes the steps of the value and gives a document in which all
tags are those of the elements that it renders, unless it writes markup as a value gives it.
-/
def GivesDocument (cx : RenderSettings) (store : Store) (value : Value) (markup : String)
    : Prop :=
  ∃ reached subjects,
    renderRoot cx value { store } = (.ok (), reached)
    ∧ Rendering cx False [.inside (RenderState.around cx.host { store }) (.value value)] subjects
        (RenderState.progress { store }) reached.progress
    ∧ markup = Piece.renderAll reached.output.toList
    ∧ (Piece.NoInnerHtml reached.output.toList → Document (TagAmong subjects) markup)

theorem renderRoot_document (keeps : cx.host.Keeps Value.Genuine fun _ => True) {store : Store}
    (ready : Ready cx Value.Genuine { store }) {value : Value} (genuine : value.Genuine)
    {reached : RenderState} (rendered : renderRoot cx value { store } = (.ok (), reached))
    : GivesDocument cx store value (Piece.renderAll reached.output.toList) := by
  have trusted : Trusted cx False Value.Genuine := {
    closed := Value.closed_genuine
    binds := Value.genuine_binds _
    host := keeps
    genuine := by
      rintro markup (_ | _)
      assumption
    selecting := nofun
  }
  obtain ⟨⟨subjects, makes⟩, -⟩ :=
    follows_render trusted (cx.options.maxDepth + 1) genuine { store } reached ready rendered
  have whole := Rendering.inside (.refl _) makes .done
  obtain ⟨pieces, adds, filled⟩ := whole.filled
  obtain rfl : reached.output.toList = pieces := adds
  exact ⟨reached, _, rendered, whole, rfl, filled.document (.inside .nil)⟩

end Render

-----------------------------------------------------------------------------------------
-- Engines
-----------------------------------------------------------------------------------------

/-- Fragments that can be read and compiled are genuine when they are bound. -/
theorem Work.markupOfFragments_genuine {settings : Settings} {fragments : List String}
    {values : List Value} {store reached : Store} {bound : Markup}
    (genuine : ∀ value ∈ values, Value.Genuine value)
    (asked : Work.markupOfFragments settings fragments values store = (.ok bound, reached))
    : Value.Genuine (.markup bound) := by
  obtain ⟨-, tree, form, parsed, compiled, rfl, -⟩ := Work.markupOfFragments_ok asked
  obtain ⟨output, -, rfl⟩ := Program.ofTree_eq compiled
  exact .markup ⟨⟨_, _, _, parsed⟩, compiled⟩ genuine

namespace Engine

variable {engine : Engine} {host : Host} {static : Bool} {markup : String}

/-- Rendering a genuine value gives a document. -/
theorem renderValue_document (keeps : host.Keeps Value.Genuine fun _ => True)
    (read : Store.Read engine.settings.options.read engine.store)
    (noPost : engine.plugins.after = []) {value : Value} (genuine : value.Genuine)
    (given : (engine.renderValue host static value).1 = .ok markup)
    : Render.GivesDocument (engine.rendering host static) engine.store value
        markup := by
  obtain ⟨state, rendered, rfl⟩ := renderValue_ok given
  simp only [Plugins.applyAfter, noPost, List.foldl_nil]
  exact Render.renderRoot_document keeps (.engine read host static _) genuine rendered

/-- Whatever is rendered in a state that an engine can come to, with no plugin after it, is a
document unless a value gives markup as it is. This holds of templates, of fragments that are read
anew and of values, which may be elements.
-/
theorem render_document (keeps : host.Keeps Value.Genuine fun _ => True)
    (reached : Engine.Reachable host (fun _ => True) engine)
    (noPost : engine.plugins.after = [])
    : (∀ static template values markup,
        (∀ value ∈ engine.plugins.applyBefore values, Value.Genuine value)
        → (engine.render host static template values).1 = .ok markup
        → ∃ bound store,
            Work.markup engine.settings template (engine.plugins.applyBefore values) engine.store
              = (.ok bound, store)
            ∧ Render.GivesDocument (engine.rendering host static) store
                (.markup bound) markup)
      ∧ (∀ fragments values markup,
          (∀ value ∈ engine.plugins.applyBefore values, Value.Genuine value)
          → (engine.renderFragments host fragments values).1 = .ok markup
          → ∃ bound store,
              Work.markupOfFragments engine.settings fragments
                  (engine.plugins.applyBefore values) engine.store
                = (.ok bound, store)
              ∧ Render.GivesDocument (engine.rendering host false) store
                  (.markup bound) markup)
      ∧ ∀ static value markup,
          value.Genuine
          → (engine.renderValue host static value).1 = .ok markup
          → Render.GivesDocument (engine.rendering host static)
              engine.store value markup := by
  have invariant := Store.Read.invariant fun _ => True
  have now := invariant.reachable host.keeps_true reached
  refine ⟨?_, ?_, fun static value markup genuine => renderValue_document keeps now noPost genuine⟩
  · intro static template values markup genuine given
    obtain ⟨bound, store, binds, rendered⟩ := render_ok given
    have read :=
      @Store.Lasting.markup _ _ _ (invariant.used engine.settings) template
        (engine.plugins.applyBefore values) engine.store trivial now
    rw [binds] at read
    have isGenuine := now.markup_good (Value.genuine_binds _) genuine binds
    exact ⟨bound, store, binds,
      @renderValue_document { engine with store } host static markup keeps read noPost _ isGenuine
        rendered⟩
  · intro fragments values markup genuine given
    obtain ⟨bound, store, binds, rendered⟩ := renderFragments_ok given
    have read :=
      @Store.Lasting.fragments _ _ _ (invariant.used engine.settings) fragments
        (engine.plugins.applyBefore values) engine.store now
    rw [binds] at read
    have isGenuine := Work.markupOfFragments_genuine genuine binds
    exact ⟨bound, store, binds,
      @renderValue_document { engine with store } host false markup keeps read noPost _ isGenuine
        rendered⟩

/-- Values that look like markup, as an attribute and as a child. -/
theorem render_document_hostile
    : let engine := Engine.ofOptions {}
      let host := Host.constant fun _ => .undefined
      let cx : RenderSettings := engine.rendering host false
      let template : Template := ⟨0, ["<p title=", ">", "</p>"]⟩
      let values : List Value := [.string "\"><script>", .string "</p>&"]
      let markup :=
        "<p title=\"&quot;&gt;&lt;script&gt;\" data-reactroot=\"\">&lt;/p&gt;&amp;</p>"
      (engine.render host false template values).1 = .ok markup
      ∧ ∃ bound store reached subjects,
          Work.markup engine.settings template values engine.store = (.ok bound, store)
          ∧ Render.renderRoot cx (.markup bound) { store } = (.ok (), reached)
          ∧ Render.Rendering cx False
              [.inside (RenderState.around host { store }) (.value (.markup bound))] subjects
              (RenderState.progress { store }) reached.progress
          ∧ Document (Render.TagAmong subjects) markup := by
  intro engine host cx template values markup
  have succeeds : (engine.render host false template values).1 = .ok markup := by decide +kernel
  have genuine : ∀ value ∈ values, Value.Genuine value := by
    simpa [values] using ⟨.string "\"><script>", .string "</p>&"⟩
  obtain ⟨templates, -, -⟩ :=
    @render_document engine host (Host.keeps_constant .undefined fun _ => .undefined) (.start {})
      rfl
  obtain ⟨bound, store, binds, reached, subjects, rendered, makes, -, document⟩ :=
    templates false template values markup genuine succeeds
  refine ⟨succeeds, bound, store, reached, subjects, binds, rendered, makes, document ?_⟩
  have pieces
      : (match Work.markup engine.settings template values engine.store with
          | (.ok bound, store) =>
              (Render.renderRoot cx (.markup bound) { store }).2.output.toList
          | (.error _, _) => [])
        = [.openTag "p", .attribute "title" "&quot;&gt;&lt;script&gt;", .rootMarker, .openEnd,
            .text "&lt;/p&gt;&amp;", .closeTag "p"] := by
    decide +kernel
  have isBound : Work.markup engine.settings template values engine.store = (.ok bound, store) :=
    binds
  simp only [isBound, cx, rendered] at pieces
  simp [Piece.NoInnerHtml, pieces]

end Engine

end TaggedMarkup
