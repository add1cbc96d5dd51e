import TaggedMarkup.Proofs.Caching.Origin
import TaggedMarkup.Proofs.Rendering.Elements
import TaggedMarkup.Proofs.Rendering.Primitives
import TaggedMarkup.Proofs.Rendering.Steps

/-! A render that succeeds makes the steps of what it renders, and it leaves what stands around a
place as it was. Selections are an exception where one is void, because it is entered and never
left.
-/

namespace TaggedMarkup

open Stateful

/-- No selection in a template is void. -/
def Compiled.Selecting (form : Compiled) : Prop :=
  ∀ branch ∈ form.tree.branches,
    branch.node.tag = .element "select" → branch.node.isVoid = false

def RenderState.progress (state : RenderState) : Render.Progress :=
  ⟨state.store, state.output, state.rootMarked⟩

/-- What the selections and the providers of a state say. -/
def RenderState.around (host : Host) (state : RenderState) : Render.Surroundings :=
  ⟨state.selections.head?, Render.contextValue host state.providers⟩

namespace Render

-----------------------------------------------------------------------------------------
-- Surroundings
-----------------------------------------------------------------------------------------

namespace Surroundings

theorem Agrees.refl {paired : Prop} (around : Surroundings) : Agrees paired around around :=
  ⟨rfl, fun _ => rfl⟩

theorem Agrees.trans {paired : Prop} {here around outer : Surroundings}
    (agrees : here.Agrees paired around) (agrees' : around.Agrees paired outer)
    : here.Agrees paired outer :=
  ⟨agrees.context.trans agrees'.context,
    fun holds => (agrees.selection holds).trans (agrees'.selection holds)⟩

theorem context_enter (around : Surroundings) (tag : String) (props : Props)
    : (around.enter tag props).context = around.context := by
  simp only [enter]
  split <;> rfl

end Surroundings

-----------------------------------------------------------------------------------------
-- Moves and steps
-----------------------------------------------------------------------------------------

/-- What a render relies on: a property of values that code keeps and that gives genuine
templates, without void selections if all selections are to be left.
-/
structure Trusted (cx : RenderSettings) (paired : Prop) (good : Value → Prop) : Prop where
  closed : Value.Closed good
  binds : Value.Binds cx.settings.options.read good
  host : cx.host.Keeps good fun _ => True
  genuine : ∀ {markup : Markup}, good (.markup markup) → markup.template.Genuine
  selecting : ∀ {markup : Markup}, paired → good (.markup markup) → markup.template.Selecting

/-- The cache of a state has been read, and the renders that code starts leave it so. What the
providers of the state provide is good.
-/
structure Ready (cx : RenderSettings) (good : Value → Prop) (state : RenderState) : Prop where
  read : Store.Read cx.settings.options.read state.store
  providers : ∀ provider ∈ state.providers, good provider.2
  leaves : cx.LeavesRead

/-- A render may begin without a store. -/
theorem Ready.start {cx : RenderSettings} (leaves : cx.LeavesRead) (good : Value → Prop)
    : Ready cx good { store := {} } :=
  ⟨⟨fun _ _ => nofun, fun _ _ => nofun⟩, nofun, leaves⟩

/-- A render of an engine begins with what has been read. -/
theorem Ready.engine {engine : Engine} (read : Store.Read engine.settings.options.read engine.store)
    (host : Host) (static : Bool) (good : Value → Prop)
    : Ready (engine.rendering host static) good { store := engine.store } :=
  ⟨read, nofun, engine.leavesRead host static⟩

/-- A move leaves what stands around a place as it was. A selection that is not left may come on
top of the selections around the place.
-/
structure Restored (cx : RenderSettings) (paired : Prop) (before after : RenderState)
    : Prop where
  read : Store.Read cx.settings.options.read after.store
  providers : after.providers = before.providers
  depth : after.depth = before.depth
  keeps : before.selections <:+ after.selections
  selections : paired → after.selections = before.selections

/-- A move that succeeds makes some steps in the surroundings and restores them. -/
def Unfolds (cx : RenderSettings) (paired : Prop) (good : Value → Prop) (around : Surroundings)
    (move : Render Unit) (steps : List Step)
    : Prop :=
  ∀ before reached,
    Ready cx good before
    → (before.around cx.host).Agrees paired around
    → move before = (.ok (), reached)
    → (∃ subjects, Rendering cx paired steps subjects before.progress reached.progress)
      ∧ Restored cx paired before reached

/-- A move that succeeds makes the steps of a subject in the surroundings that it is made in. -/
def Follows (cx : RenderSettings) (paired : Prop) (good : Value → Prop) (subject : Subject)
    (move : Render Unit)
    : Prop :=
  ∀ before reached,
    Ready cx good before
    → move before = (.ok (), reached)
    → (∃ subjects,
        Rendering cx paired (stepsOf cx.host (before.around cx.host) subject) subjects
          before.progress reached.progress)
      ∧ Restored cx paired before reached

section

variable {cx : RenderSettings} {paired : Prop} {good : Value → Prop} {around : Surroundings}

theorem Rendering.append {steps more : List Step} {subjects others : List Subject}
    {start middle finish : Progress} (first : Rendering cx paired steps subjects start middle)
    (rest : Rendering cx paired more others middle finish)
    : Rendering cx paired (steps ++ more) (subjects ++ others) start finish := by
  induction first with
  | done => exact rest
  | write _ ih => exact .write (ih rest)
  | text _ ih => exact .text (ih rest)
  | rootMarker _ ih => exact .rootMarker (ih rest)
  | run agrees runs _ ih => exact .run agrees runs (ih rest)
  | inside agrees within _ _ ih =>
      simpa only [List.cons_append, List.append_assoc]
        using Rendering.inside agrees within (ih rest)

/-- What is neither in the store nor provided does not matter. -/
theorem Ready.apart {before after : RenderState} (ready : Ready cx good before)
    (store : after.store = before.store) (providers : after.providers = before.providers)
    : Ready cx good after :=
  ⟨store ▸ ready.read, providers ▸ ready.providers, ready.leaves⟩

theorem Ready.restored {before after : RenderState} (ready : Ready cx good before)
    (restored : Restored cx paired before after)
    : Ready cx good after :=
  ⟨restored.read, restored.providers ▸ ready.providers, ready.leaves⟩

theorem Restored.refl {state : RenderState} (ready : Ready cx good state)
    : Restored cx paired state state :=
  ⟨ready.read, rfl, rfl, List.suffix_rfl, fun _ => rfl⟩

theorem Restored.trans {before middle after : RenderState}
    (first : Restored cx paired before middle) (second : Restored cx paired middle after)
    : Restored cx paired before after where
  read := second.read
  providers := second.providers.trans first.providers
  depth := second.depth.trans first.depth
  keeps := first.keeps.trans second.keeps
  selections holds := (second.selections holds).trans (first.selections holds)

theorem Restored.agrees {before after : RenderState} (restored : Restored cx paired before after)
    : (after.around cx.host).Agrees paired (before.around cx.host) where
  context := congrArg (contextValue cx.host) restored.providers
  selection holds := congrArg List.head? (restored.selections holds)

namespace Unfolds

theorem nothing : Unfolds cx paired good around (pure ()) [] := by
  intro before reached ready _ ran
  obtain ⟨-, rfl⟩ := Prod.mk.inj ran
  exact ⟨⟨[], .done⟩, .refl ready⟩

/-- A move that fails makes any steps. -/
theorem fail (error : Error) (steps : List Step)
    : Unfolds cx paired good around (throw error) steps := by
  intro before reached _ _ ran
  cases (Prod.mk.inj ran).1

/-- Moves in a row make their steps in a row. -/
theorem andThen {first second : Render Unit} {steps more : List Step}
    (start : Unfolds cx paired good around first steps)
    (rest : Unfolds cx paired good around second more)
    : Unfolds cx paired good around (first >>= fun _ => second) (steps ++ more) := by
  intro before reached ready agrees ran
  simp only [bind_apply] at ran
  cases started : first before with
  | mk result middle =>
      rw [started] at ran
      cases result with
      | error error => cases (Prod.mk.inj ran).1
      | ok =>
          obtain ⟨⟨_, makes⟩, restored⟩ := start before middle ready agrees started
          obtain ⟨⟨_, makes'⟩, restored'⟩ :=
            rest middle reached (ready.restored restored) (restored.agrees.trans agrees) ran
          exact ⟨⟨_, makes.append makes'⟩, restored.trans restored'⟩

/-- Steps that are made in some surroundings are made in all that agree with them. -/
theorem elsewhere {outer : Surroundings} {move : Render Unit} {steps : List Step}
    (agrees : around.Agrees paired outer) (unfolds : Unfolds cx paired good outer move steps)
    : Unfolds cx paired good around move steps :=
  fun before reached ready here ran => unfolds before reached ready (here.trans agrees) ran

theorem alike {first second : Render Unit} {steps : List Step} (same : EndsAlike first second)
    (unfolds : Unfolds cx paired good around second steps)
    : Unfolds cx paired good around first steps := by
  intro before reached ready agrees ran
  rcases same before with ends | ⟨error, failed, failed', fails, -⟩
  · exact unfolds before reached ready agrees (ends.symm.trans ran)
  · cases fails.symm.trans ran

/-- A move that only adds to what has been written makes a step that does the same. -/
theorem prints {move : Render Unit} {step : Step} (next : RenderState → RenderState)
    (runs : ∀ state, move state = (.ok (), next state))
    (apart
      : ∀ state,
          next state
          = { state with
              output := (next state).output
              rootMarked := (next state).rootMarked })
    (makes
      : ∀ state, Rendering cx paired [step] [] state.progress (next state).progress)
    : Unfolds cx paired good around move [step] := by
  intro before reached ready _ ran
  obtain ⟨-, rfl⟩ := Prod.mk.inj ((runs before).symm.trans ran)
  refine ⟨⟨[], makes before⟩, ?_⟩
  rw [apart before]
  exact ⟨ready.read, rfl, rfl, List.suffix_rfl, fun _ => rfl⟩

theorem write (piece : Piece)
    : Unfolds cx paired good around (Render.write piece) [.write piece] :=
  prints _ (write_apply piece) (fun _ => rfl) fun _ => .write .done

theorem writeAll (pieces : List Piece)
    : Unfolds cx paired good around (Render.writeAll pieces) (pieces.map .write) := by
  induction pieces with
  | nil => exact nothing
  | cons piece rest ih => exact (write piece).andThen ih

theorem writeOrFail (pieces : Except Error (List Piece))
    : Unfolds cx paired good around (Render.writeOrFail pieces) (Step.attributes pieces) := by
  cases pieces with
  | error error => exact fail error _
  | ok pieces => exact writeAll pieces

theorem writeText (text : String)
    : Unfolds cx paired good around (Render.writeText cx.options (Text.escape text))
        [.text text] :=
  prints _ (writeText_apply cx.options (Text.escape text)) (fun _ => rfl)
    fun _ => .text .done

theorem writeRootMarker
    : Unfolds cx paired good around (Render.writeRootMarker cx.options) [.rootMarker] :=
  prints _ (writeRootMarker_apply cx.options) (fun _ => rfl) fun _ => .rootMarker .done

theorem renderText (text : String)
    : Unfolds cx paired good around (Render.renderText cx text) (Step.texts text) := by
  simp only [Render.renderText, Step.texts]
  split
  · exact nothing
  · exact writeText text

-----------------------------------------------------------------------------------------
-- Entering and leaving
-----------------------------------------------------------------------------------------

theorem suffix_tail {α : Type} {first : α} {rest items : List α}
    (keeps : first :: rest <:+ items)
    : rest <:+ items.tail := by
  cases items with
  | nil => cases List.suffix_nil.mp keeps
  | cons item others =>
      rcases List.suffix_cons_iff.mp keeps with same | later
      · obtain ⟨-, rfl⟩ := List.cons.inj same
        exact List.suffix_rfl
      · exact (List.suffix_cons ..).trans later

/-- A move between entering a selection and leaving it is made inside the selection. -/
theorem selecting {value : Value} {move : Render Unit} {steps : List Step}
    (inside : Unfolds cx paired good { around with selection := some value } move steps)
    : Unfolds cx paired good around (do pushSelection value; move; popSelection) steps := by
  intro before reached ready agrees ran
  simp only [pushSelection, popSelection, bind_apply, modify_apply] at ran
  let entered : RenderState := { before with selections := value :: before.selections }
  cases moved : move entered with
  | mk result middle =>
      rw [moved] at ran
      cases result with
      | error error => cases (Prod.mk.inj ran).1
      | ok =>
          obtain ⟨-, rfl⟩ := Prod.mk.inj ran
          obtain ⟨makes, restored⟩ :=
            inside entered middle (ready.apart rfl rfl) ⟨agrees.context, fun _ => rfl⟩ moved
          refine ⟨makes, restored.read, restored.providers, restored.depth, ?_, fun holds => ?_⟩
          · exact suffix_tail restored.keeps
          · exact congrArg List.tail (restored.selections holds)

/-- Where selections need not be left, entering one makes no step. -/
theorem enterSelection (unpaired : ¬paired) (value : Value)
    : Unfolds cx paired good around (pushSelection value) [] := by
  intro before reached ready _ ran
  obtain ⟨-, rfl⟩ := Prod.mk.inj ran
  exact ⟨⟨[], .done⟩, ready.read, rfl, rfl, List.suffix_cons .., fun holds => absurd holds unpaired⟩

/-- A move between providing a value and ceasing to is made inside the provider. -/
theorem providing {context : String} {value : Value} {move : Render Unit} {steps : List Step}
    (holds : good value)
    (inside : Unfolds cx paired good (around.provide context value) move steps)
    : Unfolds cx paired good around (do pushProvider context value; move; popProvider)
        steps := by
  intro before reached ready agrees ran
  simp only [pushProvider, popProvider, bind_apply, modify_apply] at ran
  let entered : RenderState := { before with providers := (context, value) :: before.providers }
  have ready' : Ready cx good entered := by
    refine ⟨ready.read, fun provider member => ?_, ready.leaves⟩
    rcases List.mem_cons.mp member with rfl | outer
    · exact holds
    · exact ready.providers provider outer
  have agrees' : (entered.around cx.host).Agrees paired (around.provide context value) := by
    refine ⟨?_, agrees.selection⟩
    simp only [RenderState.around, entered, contextValue_cons, Surroundings.provide,
      ← agrees.context]
  cases moved : move entered with
  | mk result middle =>
      rw [moved] at ran
      cases result with
      | error error => cases (Prod.mk.inj ran).1
      | ok =>
          obtain ⟨-, rfl⟩ := Prod.mk.inj ran
          obtain ⟨makes, restored⟩ := inside entered middle ready' agrees' moved
          exact ⟨makes, restored.read, congrArg List.tail restored.providers, restored.depth,
            restored.keeps, restored.selections⟩

-----------------------------------------------------------------------------------------
-- Elements
-----------------------------------------------------------------------------------------

/-- Rendering a child with a line feed before it where the first is lost. -/
theorem renderChild (leadNewline : Bool) (value : Value) {move : Render Unit} {steps : List Step}
    (inside : Unfolds cx paired good around move steps)
    : Unfolds cx paired good around (Render.renderChild leadNewline value move)
        (Step.lineFeed leadNewline value ++ steps) := by
  simp only [Render.renderChild, Step.lineFeed]
  split
  · exact (write _).andThen inside
  · exact inside

theorem renderContent (tag : String) (content : Content) {children : Render Unit}
    {steps : List Step} (inside : Unfolds cx paired good around children steps)
    : Unfolds cx paired good around (Render.renderContent tag content children)
        (Step.content tag content steps) := by
  cases content with
  | nothing => exact nothing
  | children value => exact renderChild _ value inside
  | innerHtml markup => exact renderChild _ (.string markup) (write (.raw markup))

theorem writeOpenTag (tag : String) (props : Props)
    : Unfolds cx paired good around (Render.writeOpenTag cx tag props)
        (Step.openTag tag props) :=
  (write _).andThen ((writeOrFail _).andThen writeRootMarker)

/-- Rendering an element with its properties as they are. -/
theorem renderElement (tag : String) (props : Props) {children : Render Unit}
    {steps : List Step} (inside : Unfolds cx paired good around children steps)
    : Unfolds cx paired good around (Render.renderElement cx tag props children)
        (Step.element tag props steps) := by
  simp only [Render.renderElement, Step.element]
  split
  · exact fail _ _
  cases Content.ofProps props with
  | error error => exact fail _ _
  | ok content =>
      apply (writeOpenTag tag props).andThen
      split
      · exact write _
      · exact (write _).andThen ((renderContent tag content inside).andThen (write _))

end Unfolds

/-- Rendering a form element. An option reads the selection of the state that it starts in. -/
theorem renderControl_makes {tag : String} {props : Props} {before reached : RenderState}
    (ready : Ready cx good before)
    (ran : renderControl cx tag props before = (.ok (), reached))
    : (∃ subjects,
        Rendering cx paired (Step.control before.selections.head? tag props) subjects
          before.progress reached.progress)
      ∧ Restored cx paired before reached := by
  have text (text : String)
      : Unfolds cx paired good (before.around cx.host) (renderText cx text) (Step.texts text) :=
    Unfolds.renderText text
  have element (props : Props) {children : Render Unit} {steps : List Step}
      (inside : Unfolds cx paired good (before.around cx.host) children steps)
      (ran : renderElement cx tag props children before = (.ok (), reached))
      : (∃ subjects,
          Rendering cx paired (Step.element tag props steps) subjects before.progress
            reached.progress)
        ∧ Restored cx paired before reached :=
    (Unfolds.renderElement tag props inside) before reached ready (.refl _) ran
  simp only [renderControl] at ran
  simp only [Step.control]
  split
  next isInput =>
      rw [if_pos isInput] at ran
      exact element _ .nothing ran
  next notInput =>
      rw [if_neg notInput] at ran
      split
      next isTextarea =>
          rw [if_pos isTextarea] at ran
          exact element _ (text _) ran
      next notTextarea =>
          rw [if_neg notTextarea] at ran
          exact element _ (text _) ran

/-- Rendering an element from its properties, when its children are rendered as they should be
wherever they are.
-/
theorem Follows.host {tag : String} {props : Props} {children : Render Unit}
    (inside
      : ∀ around,
          Unfolds cx paired good around children
            (Step.optional around (Fields.get? props "children")))
    : Follows cx paired good (.host tag props) (renderHost cx tag props children) := by
  intro before reached ready ran
  simp only [renderHost] at ran
  simp only [stepsOf, Step.host]
  split
  next isControl =>
      rw [if_pos isControl] at ran
      exact renderControl_makes ready ran
  next notControl =>
      rw [if_neg notControl] at ran
      split
      next isSelect =>
          rw [if_pos isSelect] at ran
          have entered := inside ((before.around cx.host).enter tag props)
          simp only [Surroundings.enter, if_pos isSelect] at entered
          have around := Unfolds.renderElement tag (FormControl.selectProps props) entered.selecting
          simpa only [Surroundings.enter, if_pos isSelect]
            using around before reached ready (.refl _) ran
      next notSelect =>
          rw [if_neg notSelect] at ran
          have around := Unfolds.renderElement tag props (inside (before.around cx.host))
          simpa only [Surroundings.enter, if_neg notSelect]
            using around before reached ready (.refl _) ran

/-- A move that makes the steps of a subject everywhere follows the subject. -/
theorem Follows.of_unfolds {subject : Subject} {move : Render Unit}
    (unfolds : ∀ around, Unfolds cx paired good around move (stepsOf cx.host around subject))
    : Follows cx paired good subject move :=
  fun before reached ready ran => unfolds _ before reached ready (.refl _) ran

/-- A subject is followed one component deeper without anybody around it noticing. -/
theorem Follows.nesting {subject : Subject} {move : Render Unit}
    (follows : Follows cx paired good subject move)
    : Follows cx paired good subject (do enter cx.options; move; leave) := by
  intro before reached ready ran
  by_cases full : cx.options.maxDepth ≤ before.depth
  · rw [bind_apply, enter_apply, if_pos full] at ran
    cases (Prod.mk.inj ran).1
  · simp only [bind_apply, enter_apply, if_neg full] at ran
    cases moved : move before.deeper with
    | mk result middle =>
        rw [moved] at ran
        cases result with
        | error error => cases (Prod.mk.inj ran).1
        | ok =>
            obtain ⟨-, rfl⟩ := Prod.mk.inj ran
            obtain ⟨makes, restored⟩ := follows before.deeper middle (ready.apart rfl rfl) moved
            refine
              ⟨makes, restored.read, restored.providers, ?_, restored.keeps, restored.selections⟩
            exact congrArg (· - 1) restored.depth

/-- What follows a subject renders it inside any surroundings. -/
theorem Follows.inside {subject : Subject} {move : Render Unit}
    (follows : Follows cx paired good subject move)
    : Unfolds cx paired good around move [.inside around subject] := by
  intro before reached ready agrees ran
  obtain ⟨⟨_, makes⟩, restored⟩ := follows before reached ready ran
  exact ⟨⟨_, .inside agrees makes .done⟩, restored⟩

end

end Render

end TaggedMarkup
