import TaggedMarkup.Proofs.Code
import TaggedMarkup.Proofs.Rendering.Machine

/-! The steps of a render know no limit to the nesting of components, so they are the same under
every limit unless code makes a difference. Code may look at the options of the engine, and the
renders that it starts are under the limit as well.
-/

namespace TaggedMarkup

/-- The settings with another limit to the nesting of components. -/
def Settings.limited (settings : Settings) (limit : Nat) : Settings :=
  { settings with
    options := { settings.options with
      render := { settings.options.render with maxDepth := limit } } }

/-- The settings of a render under another limit, in which `inner` does the renders that code
starts.
-/
def RenderSettings.limited (cx : RenderSettings) (inner : RenderRequest → Work String)
    (limit : Nat)
    : RenderSettings :=
  { cx with
    settings := cx.settings.limited limit
    options := { cx.options with maxDepth := limit }
    inner }

-----------------------------------------------------------------------------------------
-- Code
-----------------------------------------------------------------------------------------

/-- Code that starts no renders and does not look at the limit. -/
def Body.IgnoresLimit {α : Type} : Body α → Prop
  | .done _ | .fail _ => True
  | .serial next => ∀ number, (next number).IgnoresLimit
  | .context _ next => ∀ value, (next value).IgnoresLimit
  | .html _ _ next | .create _ _ next => ∀ answer, (next answer).IgnoresLimit
  | .ask .settings next =>
      (∀ settings limit, next (settings.limited limit) = next settings)
      ∧ ∀ settings, (next settings).IgnoresLimit
  | .ask (.parse _) next => ∀ answer, (next answer).IgnoresLimit
  | .ask (.compile _) next => ∀ answer, (next answer).IgnoresLimit
  | .ask (.render _) _ => False

namespace Body.IgnoresLimit

variable {α β : Type}

/-- Code that goes on with what other code yields, by induction on the requests of the first. -/
theorem bind {body : Body α} {next : α → Body β} (ignores : body.IgnoresLimit)
    (rest : ∀ value, (next value).IgnoresLimit)
    : (body.bind next).IgnoresLimit := by
  induction body with
  | done result => exact rest result
  | fail => trivial
  | serial _ ih | context _ _ ih | html _ _ _ ih | create _ _ _ ih =>
      exact fun answer => ih answer (ignores answer)
  | ask request go ih =>
      cases request with
      | settings =>
          obtain ⟨same, goesOn⟩ := ignores
          refine ⟨fun settings limit => ?_, fun settings => ih settings (goesOn settings)⟩
          exact congrArg (fun body => Body.bind body next) (same settings limit)
      | parse | compile => exact fun answer => ih answer (ignores answer)
      | render => exact ignores.elim

end Body.IgnoresLimit

/-- All code of a host ignores the limit. -/
structure Host.IgnoresLimit (host : Host) : Prop where
  function : ∀ code props, (host.function code props).IgnoresLimit
  forwardRef : ∀ code props reference, (host.forwardRef code props reference).IgnoresLimit
  construct : ∀ code props, ((host.stateful code).construct props).IgnoresLimit
  stateful : ∀ code state props, ((host.stateful code).render state props).IgnoresLimit
  call : ∀ closure arguments, (host.call closure arguments).IgnoresLimit

namespace Render

/-- Code that is due ignores the limit. -/
def Task.IgnoresLimit : Task → Prop
  | .code body => body.IgnoresLimit
  | _ => True

def Moment.IgnoresLimit (moment : Moment) : Prop :=
  ∀ task ∈ moment.tasks, task.IgnoresLimit

variable {cx : RenderSettings}

-----------------------------------------------------------------------------------------
-- Where code comes from
-----------------------------------------------------------------------------------------

namespace Task

variable {children : List Task}

theorem ignores_ofChildren (props : Props) : ∀ task ∈ ofChildren props, task.IgnoresLimit := by
  simp [ofChildren, IgnoresLimit]

theorem ignores_ofContent (tag : String) (content : Content)
    (inside : ∀ task ∈ children, task.IgnoresLimit)
    : ∀ task ∈ ofContent tag content children, task.IgnoresLimit := by
  cases content with
  | children value => exact List.forall_mem_cons.mpr ⟨trivial, inside⟩
  | nothing | innerHtml => simp [ofContent, IgnoresLimit]

theorem ignores_ofElement (tag : String) (props : Props)
    (inside : ∀ task ∈ children, task.IgnoresLimit)
    : ∀ task ∈ ofElement cx tag props children, task.IgnoresLimit := by
  simp only [ofElement]
  split
  · simp [IgnoresLimit]
  · split
    · simp [IgnoresLimit]
    · split
      · simp [IgnoresLimit]
      · simpa [IgnoresLimit, or_imp, forall_and] using ignores_ofContent tag _ inside

theorem ignores_ofHost (tag : String) (props : Props)
    (inside : ∀ task ∈ children, task.IgnoresLimit)
    : ∀ task ∈ ofHost cx tag props children, task.IgnoresLimit := by
  simp only [ofHost]
  split
  · simp [IgnoresLimit]
  · split
    · apply ignores_ofElement
      simpa [IgnoresLimit, or_imp, forall_and] using inside
    · exact ignores_ofElement tag props inside

theorem ignores_ofGiven (slots : Slots) (node : Node)
    : ∀ task ∈ ofGiven slots node, task.IgnoresLimit := by
  simp only [ofGiven]
  split
  · simp [IgnoresLimit]
  · simp
  · split
    · simp [IgnoresLimit]
    · exact ignores_ofContent _ _ (ignores_ofChildren _)

theorem ignores_ofCall (slots : Slots) (call : Call)
    : ∀ task ∈ ofCall cx slots call, task.IgnoresLimit := by
  cases call with
  | content id =>
      simp only [ofCall]
      split
      · exact ignores_ofGiven slots _
      · simp
  | component id =>
      simp only [ofCall, ofComponentNode]
      split
      · split <;> simp [IgnoresLimit]
      · simp
  | _ => simp [ofCall, IgnoresLimit]

theorem ignores_ofProgram (slots : Slots) (program : Program)
    : ∀ task ∈ ofProgram cx slots program, task.IgnoresLimit := by
  induction program with
  | nil => simp [ofProgram]
  | cons instruction rest ih =>
      cases instruction with
      | write piece => exact List.forall_mem_cons.mpr ⟨trivial, ih⟩
      | call call => exact List.forall_mem_append.mpr ⟨ignores_ofCall slots call, ih⟩

theorem ignores_ofValue (value : Value) : ∀ task ∈ ofValue cx value, task.IgnoresLimit := by
  cases value with
  | element element =>
      obtain ⟨serial, part, kind, key, reference, props⟩ := element
      cases kind with
      | host tag => exact ignores_ofHost tag props (ignores_ofChildren props)
      | component named => simp [ofValue, IgnoresLimit]
      | fragment => exact ignores_ofChildren props
  | markup markup =>
      simp only [ofValue]
      split
      · exact ignores_ofProgram _ _
      · simp
  | array items => simp [ofValue, IgnoresLimit]
  | _ => simp [ofValue, IgnoresLimit]

/-- Components run code of the host, by induction on the component. -/
theorem ignores_ofComponent (host : cx.host.IgnoresLimit) (props : Props)
    (reference : Option Value) (component : Component)
    : ∀ task ∈ ofComponent cx props reference component, task.IgnoresLimit := by
  induction component with
  | function number => simpa [ofComponent, IgnoresLimit] using host.function number props
  | forwardRef number =>
      simpa [ofComponent, IgnoresLimit] using host.forwardRef number props reference
  | stateful number =>
      simpa [ofComponent, IgnoresLimit]
        using (host.construct number props).bind fun state => host.stateful number _ props
  | memo inner ih => exact ih
  | provider context =>
      simpa [ofComponent, IgnoresLimit, or_imp, forall_and] using ignores_ofChildren props
  | consumer context =>
      simp only [ofComponent]
      split
      · simpa [IgnoresLimit, Body.IgnoresLimit] using fun value => host.call _ [value]
      · simp [IgnoresLimit]
  | fragment => exact ignores_ofChildren props
  | «alias» tag => exact ignores_ofHost tag props (ignores_ofChildren props)

end Task

-----------------------------------------------------------------------------------------
-- Steps
-----------------------------------------------------------------------------------------

section

variable (cx : RenderSettings) (inner : RenderRequest → Work String) (limit : Nat)

end

namespace Moment

variable {moment : Moment}

/-- What is left to do after a step is as before. -/
theorem IgnoresLimit.proceed {α : Type} {rest : α → List Task}
    (ignores : ∀ value, ∀ task ∈ rest value, task.IgnoresLimit)
    (outcome : Except Error α × RenderState)
    : (Moment.proceed rest outcome).IgnoresLimit := by
  obtain ⟨result, state⟩ := outcome
  cases result with
  | ok value => exact ignores value
  | error error => simp [Moment.IgnoresLimit, Moment.proceed]

/-- After a step the code that is due ignores the limit again. -/
theorem IgnoresLimit.next (host : cx.host.IgnoresLimit) (ignores : moment.IgnoresLimit)
    : (moment.next cx).IgnoresLimit := by
  obtain ⟨tasks, state, result⟩ := moment
  match tasks with
  | [] => exact ignores
  | task :: rest =>
      obtain ⟨-, later⟩ := List.forall_mem_cons.mp ignores
      cases task with
      | move work => exact .proceed (fun _ => later) _
      | value value =>
          exact List.forall_mem_append.mpr ⟨Task.ignores_ofValue value, later⟩
      | code body =>
          have yields (value : Value) : Task.IgnoresLimit (.value value) := trivial
          exact .proceed (fun value => List.forall_mem_cons.mpr ⟨yields value, later⟩) _
      | component component props reference =>
          exact List.forall_mem_append.mpr
            ⟨Task.ignores_ofComponent host props reference component,
              List.forall_mem_cons.mpr ⟨trivial, later⟩⟩
      | leave => exact .proceed (fun _ => later) _

end Moment

end Render

end TaggedMarkup
