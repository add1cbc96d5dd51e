import TaggedMarkup.Body
import TaggedMarkup.Proofs.Fields

/-! Component code is foreign, so what is proved of a render says what it relies on: a property
of values that the code hands on, and the templates that it uses. Both are parameters, and
every host keeps the trivial ones.
-/

namespace TaggedMarkup

/-- A property of values passes to the values inside and holds of a missing value. Functions
are left out, because what is inside of them belongs to their code.
-/
structure Value.Inherited (good : Value → Prop) : Prop where
  undefined : good .undefined
  array : ∀ {items}, good (.array items) → ∀ item ∈ items, good item
  object : ∀ {fields}, good (.object fields) → ∀ field ∈ fields, good field.2
  props : ∀ {element : Element}, good (.element element) → ∀ field ∈ element.props, good field.2
  reference
    : ∀ {element : Element},
        good (.element element) → ∀ value, element.reference = some value → good value

/-- A render that is asked for uses a known template, if any, and values with a property. -/
def RenderRequest.Within (good : Value → Prop) (known : Template → Prop) : RenderRequest → Prop
  | .template _ used values => known used ∧ ∀ value ∈ values, good value
  | .value _ given => good given
  | .fragments _ values => ∀ value ∈ values, good value

/-- What is asked for uses known templates and values with a property. -/
def EngineRequest.Within (good : Value → Prop) (known : Template → Prop) : EngineRequest → Prop
  | .settings => True
  | .parse template | .compile template => known template
  | .render request => request.Within good known

/-- Code keeps a property of values: it yields and hands out values with the property as long
as it is given such values, and it asks for known templates only.
-/
def Body.Keeps (good : Value → Prop) (known : Template → Prop) : Body Value → Prop
  | .done result => good result
  | .fail _ => True
  | .serial next => ∀ number, (next number).Keeps good known
  | .context _ next => ∀ value, good value → (next value).Keeps good known
  | .html template values next | .create template values next =>
      known template
      ∧ (∀ value ∈ values, good value)
      ∧ ∀ answer, (∀ value, answer = .ok value → good value) → (next answer).Keeps good known
  | .ask request next =>
      request.Within good known ∧ ∀ answer, (next answer).Keeps good known

/-- All code of a host keeps a property of values and asks for known templates only. -/
structure Host.Keeps (host : Host) (good : Value → Prop) (known : Template → Prop)
    : Prop where
  function
    : ∀ code props,
        (∀ field ∈ props, good field.2) → (host.function code props).Keeps good known
  forwardRef
    : ∀ code props reference,
        (∀ field ∈ props, good field.2)
        → (∀ value, reference = some value → good value)
        → (host.forwardRef code props reference).Keeps good known
  construct
    : ∀ code props,
        (∀ field ∈ props, good field.2)
        → ((host.stateful code).construct props).Keeps good known
  willMount : ∀ code state, good state → good ((host.stateful code).willMount state)
  stateful
    : ∀ code state props,
        good state
        → (∀ field ∈ props, good field.2)
        → ((host.stateful code).render state props).Keeps good known
  call
    : ∀ closure arguments,
        good (.function closure)
        → (∀ value ∈ arguments, good value)
        → (host.call closure arguments).Keeps good known
  contextDefault : ∀ name, good (host.contextDefault name)

theorem Value.inherited_true : Value.Inherited fun _ => True := by
  constructor <;> simp

/-- What is asked for with the property of values is asked for without it. -/
theorem RenderRequest.Within.values {good : Value → Prop} {known : Template → Prop}
    {request : RenderRequest} (within : request.Within good known)
    : request.Within (fun _ => True) known := by
  cases request with
  | template => exact ⟨within.1, fun _ _ => trivial⟩
  | value => trivial
  | fragments => exact fun _ _ => trivial

theorem RenderRequest.within_true (request : RenderRequest)
    : request.Within (fun _ => True) (fun _ => True) := by
  cases request <;> simp [RenderRequest.Within]

theorem EngineRequest.within_true (request : EngineRequest)
    : request.Within (fun _ => True) (fun _ => True) := by
  cases request with
  | render request => exact request.within_true
  | _ => trivial

/-- All code keeps the trivial property when every template is known, by induction on its
requests.
-/
theorem Body.keeps_true (body : Body Value)
    : body.Keeps (fun _ => True) (fun _ => True) := by
  induction body with
  | done | fail => trivial
  | serial _ ih => exact ih
  | context _ _ ih => exact fun value _ => ih value
  | html _ _ _ ih | create _ _ _ ih =>
      exact ⟨trivial, fun _ _ => trivial, fun answer _ => ih answer⟩
  | ask request _ ih => exact ⟨request.within_true, ih⟩

/-- Code that goes on with what other code yields keeps a property when both do, by induction on
the requests of the first.
-/
theorem Body.Keeps.bind {good : Value → Prop} {known : Template → Prop} {body : Body Value}
    {next : Value → Body Value} (first : body.Keeps good known)
    (rest : ∀ value, good value → (next value).Keeps good known)
    : (body.bind next).Keeps good known := by
  induction body with
  | done result => exact rest result first
  | fail => trivial
  | serial _ ih => exact fun number => ih number (first number)
  | context _ _ ih => exact fun value holds => ih value (first value holds)
  | html _ _ _ ih | create _ _ _ ih =>
      obtain ⟨isKnown, given, goesOn⟩ := first
      exact ⟨isKnown, given, fun answer holds => ih answer (goesOn answer holds)⟩
  | ask _ _ ih => exact ⟨first.1, fun answer => ih answer (first.2 answer)⟩

/-- A host whose functions yield a fixed value each, and whose other code yields nothing. -/
def Host.constant (values : Nat → Value) : Host where
  function code _ := .done (values code)
  forwardRef _ _ _ := .done .undefined
  stateful _ :=
    { construct := fun _ => .done .undefined
      willMount := id
      render := fun _ _ => .done .undefined }
  call _ _ := .done .undefined
  contextDefault _ := .undefined

/-- A host of fixed values keeps what holds of all of them, and asks for no template. -/
theorem Host.keeps_constant {good : Value → Prop} {known : Template → Prop}
    {values : Nat → Value} (undefined : good .undefined) (holds : ∀ code, good (values code))
    : (Host.constant values).Keeps good known where
  function code _ _ := holds code
  forwardRef _ _ _ _ _ := undefined
  construct _ _ _ := undefined
  willMount _ _ state := state
  stateful _ _ _ _ _ := undefined
  call _ _ _ _ := undefined
  contextDefault _ := undefined

/-- A host whose functions yield the children that they are given, and whose other code yields
nothing.
-/
def Host.children : Host :=
  { Host.constant fun _ => .undefined with
    function := fun _ props => .done ((Fields.get? props "children").getD .undefined) }

/-- What holds of the children that functions are given holds of what they yield. -/
theorem Host.keeps_children {good : Value → Prop} {known : Template → Prop}
    (undefined : good .undefined)
    : Host.children.Keeps good known := by
  refine { Host.keeps_constant undefined fun _ => undefined with function := ?_ }
  exact fun _ _ holds => Fields.getD_of_forall undefined holds "children"

/-- Every host keeps the trivial property when every template is known. -/
theorem Host.keeps_true (host : Host)
    : host.Keeps (fun _ => True) (fun _ => True) := by
  constructor <;> intros <;> first | trivial | exact Body.keeps_true _

end TaggedMarkup
