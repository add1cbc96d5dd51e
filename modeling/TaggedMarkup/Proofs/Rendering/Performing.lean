import TaggedMarkup.Proofs.Rendering.Calm
import TaggedMarkup.Proofs.Rendering.Following
import TaggedMarkup.Proofs.Rendering.Machine

/-! A render does the tasks that the steps do, in the same order. It is refused exactly where the
steps come to a component that is due inside as many others as the limit says, because the depth
that is tested there is the number of components that are still to end.
-/

namespace TaggedMarkup

/-- The slots without what renders them. -/
def Slots.idle (slots : Slots) : Slots :=
  { slots with renderSlot := fun _ => pure (), renderField := fun _ _ => pure () }

namespace Render

open Stateful

-----------------------------------------------------------------------------------------
-- Moments in a row
-----------------------------------------------------------------------------------------

/-- From one moment to a later one, no more components are nested than the limit, and before the
later one none is due inside as many others.
-/
inductive Passes (cx : RenderSettings) (limit : Nat) : Moment → Moment → Prop
  | here {moment : Moment} (within : moment.nested ≤ limit) : Passes cx limit moment moment
  | step {moment last : Moment} (within : moment.nested ≤ limit)
    (allowed : ¬ moment.DueInside limit) (rest : Passes cx limit (moment.next cx) last)
    : Passes cx limit moment last

/-- The next step fails, and if it fails because components are nested too deep, it is code that
says so.
-/
structure Fails (cx : RenderSettings) (moment : Moment) (error : Error) (state : RenderState)
    : Prop where
  next : moment.next cx = { tasks := [], state, result := .error error }
  cause : ∀ limit, error = .recursionLimit limit → moment.CodeDue

/-- What a part of a render has come to, at a moment: it is done and the rest is still to do, at
the depth of the rest, or it fails in the next step, or it is refused because of a component that is
due.
-/
inductive Stands (cx : RenderSettings) (limit : Nat) (rest : List Task)
    : Except Error Unit × RenderState → Moment → Prop
  | done (state : RenderState) (depth : state.depth = Task.nested rest)
    : Stands cx limit rest (.ok (), state) { tasks := rest, state }
  | failed {moment : Moment} {error : Error} {state : RenderState}
    (fails : Fails cx moment error state)
    (allowed : ¬ moment.DueInside limit)
    : Stands cx limit rest (.error error, state) moment
  | refused {moment : Moment} (due : moment.DueInside limit)
    : Stands cx limit rest (.error (.recursionLimit cx.options.maxDepth), moment.state) moment

/-- The depth of a state says how many components are still to end. They are no more than the limit
allows, and the recursion over those that may come begins with more than the limit leaves.
-/
structure Fits (cx : RenderSettings) (remaining : Nat) (rest : List Task) (state : RenderState)
    : Prop where
  depth : state.depth = Task.nested rest
  within : Task.nested rest ≤ cx.options.maxDepth
  enough : cx.options.maxDepth < Task.nested rest + remaining

/-- A part of a render does the tasks, wherever it fits. -/
structure Performs (cx : RenderSettings) (remaining : Nat) (work : Render Unit)
    (tasks : List Task)
    : Prop where
  flat : Task.nested tasks = 0
  runs
    : ∀ rest state,
        Fits cx remaining rest state
        → ∃ last,
            Passes cx cx.options.maxDepth { tasks := tasks ++ rest, state } last
            ∧ Stands cx cx.options.maxDepth rest (work state) last

/-- What renders the values of a bound template does the tasks of these values. -/
structure SlotsPerform (cx : RenderSettings) (remaining : Nat) (slots : Slots) : Prop where
  slot : ∀ slot, Performs cx remaining (slots.renderSlot slot) [.value (slots.value slot)]
  field
    : ∀ slot position,
        Performs cx remaining (slots.renderField slot position)
          [.value (Source.fieldAt position slots.values[slot]?)]

variable {cx : RenderSettings} {remaining limit : Nat}

theorem Task.nested_append (tasks rest : List Task)
    : nested (tasks ++ rest) = nested tasks + nested rest := by
  induction tasks with
  | nil => simp [nested]
  | cons task others ih => cases task <;> simp only [nested, ih, List.cons_append]; omega

/-- Only a component is due inside others. -/
theorem Moment.not_dueInside {task : Task} {rest : List Task} {state : RenderState}
    (other : ∀ component props reference, task ≠ .component component props reference) (limit : Nat)
    : ¬ DueInside limit { tasks := task :: rest, state } := by
  rintro ⟨component, props, reference, pending, isTasks, -⟩
  exact other component props reference (List.cons.inj isTasks).1

namespace Passes

theorem trans {first middle last : Moment} (passes : Passes cx limit first middle)
    (rest : Passes cx limit middle last)
    : Passes cx limit first last := by
  induction passes with
  | here => exact rest
  | step within allowed _ ih => exact .step within allowed (ih rest)

/-- A first task that is no component leads on to the next moment. -/
theorem next {moment last : Moment} (within : moment.nested ≤ limit)
    (other : ∀ limit, ¬ moment.DueInside limit) (rest : Passes cx limit (moment.next cx) last)
    : Passes cx limit moment last :=
  .step within (other limit) rest

end Passes

namespace Performs

/-- A moment with some more tasks that are no ends of components is no deeper. -/
theorem within {rest tasks : List Task} {state : RenderState} (fits : Fits cx remaining rest state)
    (flat : Task.nested tasks = 0)
    : Moment.nested { tasks := tasks ++ rest, state } ≤ cx.options.maxDepth := by
  rw [Moment.nested, Task.nested_append, flat, Nat.zero_add]
  exact fits.within

theorem nothing : Performs cx remaining (pure ()) [] where
  flat := rfl
  runs _ state fits := ⟨_, .here (within fits rfl), .done state fits.depth⟩

theorem move {work : Render Unit} (calm : Calm work) : Performs cx remaining work [.move work] where
  flat := rfl
  runs rest state fits := by
    have other : ∀ limit, ¬ Moment.DueInside limit { tasks := [.move work] ++ rest, state } :=
      Moment.not_dueInside (by simp)
    have depth := (calm.depth state).trans fits.depth
    cases ran : work state with
    | mk result reached =>
        have next
            : Moment.next cx { tasks := [.move work] ++ rest, state }
              = Moment.proceed (fun _ => rest) (result, reached) :=
          congrArg (Moment.proceed fun _ => rest) ran
        rw [ran] at depth
        cases result with
        | ok =>
            refine ⟨_, .next (within fits rfl) other (.here ?_), next ▸ .done reached depth⟩
            exact next ▸ fits.within
        | error error =>
            refine ⟨_, .here (within fits rfl), .failed ⟨next, ?_⟩ (other _)⟩
            rintro limit rfl
            exact absurd (congrArg Prod.fst ran) (calm.cause state limit)

/-- Parts in a row do their tasks in a row. -/
theorem andThen {first second : Render Unit} {tasks others : List Task}
    (start : Performs cx remaining first tasks) (next : Performs cx remaining second others)
    : Performs cx remaining (first >>= fun _ => second) (tasks ++ others) where
  flat := by rw [Task.nested_append, start.flat, next.flat]
  runs rest state fits := by
    have same : Task.nested (others ++ rest) = Task.nested rest := by
      rw [Task.nested_append, next.flat, Nat.zero_add]
    have fits' : Fits cx remaining (others ++ rest) state :=
      ⟨same ▸ fits.depth, same ▸ fits.within, same ▸ fits.enough⟩
    obtain ⟨middle, passes, stands⟩ := start.runs (others ++ rest) state fits'
    rw [List.append_assoc, bind_apply]
    cases started : first state with
    | mk result reached =>
        rw [started] at stands
        cases stands with
        | done _ depth =>
            obtain ⟨last, passes', stands'⟩ :=
              next.runs rest reached ⟨depth.trans same, fits.within, fits.enough⟩
            exact ⟨last, passes.trans passes', stands'⟩
        | failed fails allowed => exact ⟨_, passes, .failed fails allowed⟩
        | refused due => exact ⟨_, passes, .refused due⟩

/-- A task is done by the tasks that it is replaced by. -/
theorem value {work : Render Unit} {value : Value}
    (performs : Performs cx remaining work (Task.ofValue cx value))
    : Performs cx remaining work [.value value] where
  flat := rfl
  runs rest state fits := by
    obtain ⟨last, passes, stands⟩ := performs.runs rest state fits
    exact ⟨last, .next (within fits rfl) (Moment.not_dueInside (by simp)) passes, stands⟩

/-- Code is run, and what it yields is rendered. -/
theorem code (body : Body Value) {renderAny : Value → Render Unit}
    (renders : ∀ value, Performs cx remaining (renderAny value) [.value value])
    : Performs cx remaining (runBody cx body >>= renderAny) [.code body] where
  flat := rfl
  runs rest state fits := by
    have other : ∀ limit, ¬ Moment.DueInside limit { tasks := [.code body] ++ rest, state } :=
      Moment.not_dueInside (by simp)
    have depth : (runBody cx body state).2.depth = Task.nested rest := fits.depth
    rw [bind_apply]
    cases ran : runBody cx body state with
    | mk result reached =>
        have next
            : Moment.next cx { tasks := [.code body] ++ rest, state }
              = Moment.proceed (fun value => .value value :: rest) (result, reached) :=
          congrArg (Moment.proceed fun value => .value value :: rest) ran
        rw [ran] at depth
        cases result with
        | ok value =>
            obtain ⟨last, passes, stands⟩ :=
              (renders value).runs rest reached ⟨depth, fits.within, fits.enough⟩
            exact ⟨last, .next (within fits rfl) other (next ▸ passes), stands⟩
        | error error =>
            have cause : ∀ limit, error = .recursionLimit limit → Moment.CodeDue
                { tasks := [.code body] ++ rest, state } :=
              fun _ _ => ⟨body, rest, rfl⟩
            exact ⟨_, .here (within fits rfl), .failed ⟨next, cause⟩ (other _)⟩

/-- A component is run one deeper, or it is refused because the limit is reached. -/
theorem component {component : Component} {props : Props} {reference : Option Value}
    {work : Render Unit}
    (performs : Performs cx remaining work (Task.ofComponent cx props reference component))
    : Performs cx (remaining + 1)
        (do enter cx.options; work; leave)
        [.component component props reference] where
  flat := rfl
  runs rest state fits := by
    by_cases full : cx.options.maxDepth ≤ state.depth
    · have due
          : Moment.DueInside cx.options.maxDepth
              { tasks := [.component component props reference] ++ rest, state } := by
        refine ⟨component, props, reference, rest, rfl, ?_⟩
        exact Nat.le_antisymm fits.within (fits.depth ▸ full)
      refine ⟨_, .here (within fits rfl), ?_⟩
      rw [bind_apply, enter_apply, if_pos full]
      exact .refused due
    · have entered
          : Fits cx remaining (.leave :: rest) state.deeper := by
        obtain ⟨depth, -, enough⟩ := fits
        refine ⟨congrArg (· + 1) depth, ?_, ?_⟩ <;> simp only [Task.nested] <;> omega
      have first (last : Moment)
          (passes
            : Passes cx cx.options.maxDepth
                {
                  tasks := Task.ofComponent cx props reference component ++ .leave :: rest
                  state := state.deeper
                }
                last)
          : Passes cx cx.options.maxDepth
              { tasks := [.component component props reference] ++ rest, state } last := by
        refine .step (within fits rfl) ?_ passes
        rintro ⟨_, _, _, pending, isTasks, isLimit⟩
        obtain rfl : rest = pending := (List.cons.inj isTasks).2
        exact full (Nat.le_of_eq (isLimit.symm.trans fits.depth.symm))
      obtain ⟨last, passes, stands⟩ := performs.runs _ _ entered
      simp only [bind_apply, enter_apply, if_neg full]
      cases ran : work state.deeper with
      | mk result reached =>
          rw [ran] at stands
          cases stands with
          | done _ depth =>
              have left : (leave reached).2.depth = Task.nested rest := by
                simp only [leave, modify_apply, depth, Task.nested, Nat.add_sub_cancel]
              have ending := passes.trans
                (.next entered.within (Moment.not_dueInside (by simp)) (.here fits.within))
              exact ⟨_, first _ ending, .done _ left⟩
          | failed fails allowed => exact ⟨_, first _ passes, .failed fails allowed⟩
          | refused due => exact ⟨_, first _ passes, .refused due⟩

/-- Where the recursion is at its end nothing fits any more. -/
theorem never {work : Render Unit} {tasks : List Task} (flat : Task.nested tasks = 0)
    : Performs cx 0 work tasks where
  flat := flat
  runs _ _ fits := absurd fits.within (Nat.not_le_of_lt fits.enough)

-----------------------------------------------------------------------------------------
-- Elements
-----------------------------------------------------------------------------------------

theorem renderChild (leadNewline : Bool) (value : Value) {inner : Render Unit}
    {tasks : List Task} (performs : Performs cx remaining inner tasks)
    : Performs cx remaining (Render.renderChild leadNewline value inner)
        (.move (Render.renderChild leadNewline value (pure ())) :: tasks) := by
  have same
      : Render.renderChild leadNewline value inner
        = (Render.renderChild leadNewline value (pure ()) >>= fun _ => inner) := by
    simp only [Render.renderChild]
    split <;> simp
  rw [same]
  exact (move (Calm.nothing.renderChild leadNewline value)).andThen performs

theorem renderContent (tag : String) (content : Content) {children : Render Unit}
    {tasks : List Task} (performs : Performs cx remaining children tasks)
    : Performs cx remaining (Render.renderContent tag content children)
        (Task.ofContent tag content tasks) := by
  have calm (content : Content)
      : Performs cx remaining (Render.renderContent tag content (pure ()))
          [.move (Render.renderContent tag content (pure ()))] :=
    move (Calm.nothing.renderContent tag content)
  cases content with
  | nothing => exact calm .nothing
  | innerHtml markup => exact calm (.innerHtml markup)
  | children value => exact performs.renderChild _ value

theorem renderElement (tag : String) (props : Props) {children : Render Unit}
    {tasks : List Task} (performs : Performs cx remaining children tasks)
    : Performs cx remaining (Render.renderElement cx tag props children)
        (Task.ofElement cx tag props tasks) := by
  simp only [Render.renderElement, Task.ofElement]
  cases refused : Html.isVoid tag && hasContent props with
  | true => exact move (.fail (by simp))
  | false =>
      simp only [Bool.false_eq_true, if_false]
      cases given : Content.ofProps props with
      | error error => exact move (.failContent given)
      | ok content =>
          refine (move (.writeOpenTag tag props)).andThen ?_
          cases isVoid : Html.isVoid tag with
          | true => exact move (.write _)
          | false =>
              have inside := performs.renderContent tag content
              exact (move (.write _)).andThen (inside.andThen (move (.write _)))

theorem renderHost (tag : String) (props : Props) {children : Render Unit}
    {tasks : List Task} (performs : Performs cx remaining children tasks)
    : Performs cx remaining (Render.renderHost cx tag props children)
        (Task.ofHost cx tag props tasks) := by
  simp only [Render.renderHost, Task.ofHost]
  split
  · exact move (.renderControl tag props)
  split
  · have inside := (move (.pushSelection (FormControl.selectValue props))).andThen
      (performs.andThen (move .popSelection))
    exact inside.renderElement tag (FormControl.selectProps props)
  · exact performs.renderElement tag props

-----------------------------------------------------------------------------------------
-- Bound templates
-----------------------------------------------------------------------------------------

variable {invoke : Invoke} {slots : Slots}

/-- A source renders the value that it gives. -/
theorem renderSource (performs : SlotsPerform cx remaining slots) (source : Source)
    : Performs cx remaining (Slots.renderSource cx slots source)
        [.value (source.value slots.values)] := by
  cases source with
  | literal text => exact value (move (.renderText text))
  | bare => exact value nothing
  | slot index => exact performs.slot index
  | field index position => exact performs.field index position

theorem renderGiven (performs : SlotsPerform cx remaining slots) (node : Node)
    : Performs cx remaining (Slots.renderContent cx slots node) (Task.ofGiven slots.idle node) := by
  simp only [Slots.renderContent, Task.ofGiven, Slots.idle]
  cases isContent : Content.ofProps (node.props slots.values) with
  | error error => exact move (.failContent isContent)
  | ok content =>
      cases content with
      | nothing => exact nothing
      | innerHtml markup | children value =>
          simp only
          split
          · exact move (.fail (by simp))
          · refine renderContent _ _ ?_
            simp only [Task.ofChildren, Node.props, Fields.get?_map]
            cases Fields.get? (node.sources slots.values) "children" with
            | none => exact nothing
            | some source => exact renderSource performs source

theorem runCall (performs : SlotsPerform cx remaining slots)
    (invokes
      : ∀ component props reference,
          Performs cx remaining (invoke component props reference)
            [.component component props reference])
    (call : Call)
    : Performs cx remaining (Slots.runCall cx invoke slots call)
        (Task.ofCall cx slots.idle call) := by
  cases call with
  | child slot leadNewline => exact (performs.slot slot).renderChild leadNewline _
  | content id =>
      simp only [Slots.runCall, Slots.callNodeById, Task.ofCall, Slots.idle]
      cases slots.template.tree.branch? id with
      | none => exact nothing
      | some branch => exact renderGiven performs branch.node
  | component id =>
      simp only [Slots.runCall, Slots.callNodeById, Task.ofCall, Slots.idle]
      cases slots.template.tree.branch? id with
      | none => exact nothing
      | some branch =>
          simp only [Slots.callNode, Task.ofComponentNode]
          cases slots.template.component? id with
          | none => exact nothing
          | some component => exact invokes component _ _
  | _ => exact move (.runCall invoke slots (by simp) (by simp) (by simp))

theorem runProgram (performs : SlotsPerform cx remaining slots)
    (invokes
      : ∀ component props reference,
          Performs cx remaining (invoke component props reference)
            [.component component props reference])
    (program : Program)
    : Performs cx remaining (Slots.runProgram cx invoke slots program)
        (Task.ofProgram cx slots.idle program) := by
  induction program with
  | nil => exact nothing
  | cons instruction rest ih =>
      cases instruction with
      | write piece => exact (move (.write piece)).andThen ih
      | call call => exact (runCall performs invokes call).andThen ih

-----------------------------------------------------------------------------------------
-- Values
-----------------------------------------------------------------------------------------

theorem items {items : List Value}
    (performs : ∀ item ∈ items, Performs cx remaining (renderValue cx invoke item) [.value item])
    : Performs cx remaining (renderItems cx invoke items) (items.map .value) := by
  induction items with
  | nil =>
      simp only [renderItems]
      exact nothing
  | cons item rest ih =>
      simp only [renderItems]
      exact (performs item (.head _)).andThen
        (ih fun later member => performs later (.tail _ member))

theorem optional {value : Option Value}
    (performs
      : ∀ child,
          value = some child → Performs cx remaining (renderValue cx invoke child) [.value child])
    : Performs cx remaining (renderOptional cx invoke value) (value.toList.map .value) := by
  cases value with
  | none => exact nothing
  | some child => exact performs child rfl

/-- Rendering a value does the task of the value, by induction on its size. -/
theorem renderValue
    (invokes
      : ∀ component props reference,
          Performs cx remaining (invoke component props reference)
            [.component component props reference])
    (value : Value)
    : Performs cx remaining (Render.renderValue cx invoke value) [.value value] := by
  induction value using (measure (sizeOf : Value → Nat)).wf.induction with
  | _ value ih =>
      refine .value ?_
      cases value with
      | undefined | null | bool | function | symbol =>
          simp only [Render.renderValue]
          exact nothing
      | string text =>
          simp only [Render.renderValue]
          exact move (.renderText text)
      | number | object =>
          simp only [Render.renderValue]
          exact move (.writeText _ _)
      | array children =>
          simp only [Render.renderValue]
          exact items fun item member => ih item (Value.sizeOf_item member)
      | element element =>
          have children
              : Performs cx remaining (renderField cx invoke "children" element.props)
                  (Task.ofChildren element.props) := by
            rw [renderField_eq]
            exact optional fun child isChild => ih child (Value.sizeOf_get? isChild)
          obtain ⟨serial, part, kind, key, reference, props⟩ := element
          cases kind with
          | host tag =>
              simp only [Render.renderValue]
              exact children.renderHost tag props
          | component component =>
              simp only [Render.renderValue]
              exact invokes component props reference
          | fragment =>
              simp only [Render.renderValue]
              exact children
      | markup markup =>
          have slot (slot : Nat)
              : Performs cx remaining (renderItem cx invoke markup.values slot)
                  [.value (markup.values.getD slot .undefined)] := by
            rw [renderItem_eq, ← renderValue_getD, ← List.getD_eq_getElem?_getD]
            exact ih _ (Value.sizeOf_getD markup slot)
          have field (slot position : Nat)
              : Performs cx remaining (renderItemField cx invoke markup.values slot position)
                  [.value (Source.fieldAt position markup.values[slot]?)] := by
            rw [renderItemField_eq]
            exact ih _ (Value.sizeOf_fieldAt markup slot position)
          obtain ⟨serial, template, values, entry⟩ := markup
          simp only [Render.renderValue, Slots.render, Task.ofValue]
          cases template.program? entry with
          | none => exact nothing
          | some program => exact runProgram ⟨slot, field⟩ invokes program

-----------------------------------------------------------------------------------------
-- Components
-----------------------------------------------------------------------------------------

/-- What a component renders does the tasks of the component, by induction on it. -/
theorem renderComponent {renderAny : Value → Render Unit}
    (renders : ∀ value, Performs cx remaining (renderAny value) [.value value]) (props : Props)
    (reference : Option Value) (component : Component)
    : Performs cx remaining (Render.renderComponent cx renderAny props reference component)
        (Task.ofComponent cx props reference component) := by
  have children
      : Performs cx remaining (renderChildren renderAny props) (Task.ofChildren props) := by
    simp only [renderChildren, Task.ofChildren]
    cases Fields.get? props "children" with
    | none => exact nothing
    | some child => exact renders child
  induction component with
  | function number | forwardRef number => exact code _ renders
  | stateful number =>
      have runs := @code cx remaining
        (((cx.host.stateful number).construct props).bind fun state =>
          (cx.host.stateful number).render ((cx.host.stateful number).willMount state) props)
        _ renders
      simp only [runBody_bind, bind_assoc] at runs
      exact runs
  | memo inner ih => exact ih
  | provider context =>
      exact (move (.pushProvider context _)).andThen (children.andThen (move .popProvider))
  | consumer context =>
      simp only [Render.renderComponent, Task.ofComponent]
      cases Fields.get? props "children" with
      | none => exact move (.fail (by simp))
      | some child =>
          cases child with
          | function closure =>
              exact code (.context context fun value => cx.host.call closure [value]) renders
          | _ => exact move (.fail (by simp))
  | fragment => exact children
  | «alias» tag => exact children.renderHost tag props

/-- Running a component does its task, by induction on what the recursion begins with. -/
theorem invocation (cx : RenderSettings) (remaining : Nat) (component : Component) (props : Props)
    (reference : Option Value)
    : Performs cx remaining (Render.invoke cx remaining component props reference)
        [.component component props reference] := by
  induction remaining generalizing component props reference with
  | zero => exact never rfl
  | succ remaining ih =>
      exact (renderComponent (renderValue ih) props reference component).component

end Performs

end Render

end TaggedMarkup
