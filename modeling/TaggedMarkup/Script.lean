import TaggedMarkup.Body

/-! A script gives component code as expressions. An expression is evaluated from left to right
and stops at the first failure. It sees the scope of the component that it belongs to, and
in a function also the arguments of the call.
-/

namespace TaggedMarkup.Script

inductive Expr where
  | constant (value : Value)
  | array (items : List Expr)
  /-- An object; a name that is written again keeps its place. -/
  | object (fields : List (String × Expr))
  /-- A new function with the code of a number. -/
  | function (code : Nat)
  | html (template : Template) (values : List Expr)
  /-- The elements of a template with values. -/
  | create (template : Template) (values : List Expr)
  | element (kind : ElementKind) (key : Option String) (props : Option Expr)
      (reference : Option Expr)
  | prop (name : String)
  | props
  /-- The names of the properties of the component. -/
  | propNames
  /-- The reference that the component receives. -/
  | reference
  | state
  | argument (index : Nat)
  | context (name : String)
  | call (function : Expr) (arguments : List Expr)
  | text (value : Expr)
  | get (value : Expr) (name : String)
  | choose (condition yes no : Expr)
  | throw (message : String)

/-- A component with a state: what constructs the state, what is added to it before the
component is shown, and what renders it. -/
structure Stateful where
  construct : Expr
  mount : Option Binary64
  render : Expr

/-- The expressions of all code, and the defaults of the contexts. -/
structure Code where
  functions : Array Expr := #[]
  stateful : Array Stateful := #[]
  contexts : Fields Value := []

/-- What an expression sees. `attached` says whether there is an engine around it. -/
structure Frame where
  scope : Scope Value
  arguments : List Value
  attached : Bool

/-- What an expression outside of all components sees. -/
def Frame.outside : Frame where
  scope := { props := [], reference := .undefined, state := .undefined }
  arguments := []
  attached := true

/-- What the code of a component sees. -/
def Frame.ofProps (props : Props) (reference state : Value) (attached : Bool) : Frame where
  scope := { props, reference, state }
  arguments := []
  attached := attached

/-- The failure of an expression that needs an engine where there is none. -/
def detached : Error :=
  .component "no engine"

def Code.contextDefault (code : Code) (name : String) : Value :=
  (Fields.get? code.contexts name).getD .undefined

/-- What calls a function. The flag says whether there is an engine. -/
abbrev Caller := Bool → Closure Value → List Value → Body Value

/-- Calls a value, which has to be a function. -/
def callValue (caller : Caller) (attached : Bool) (value : Value) (arguments : List Value)
    : Body Value :=
  match value with
  | .function closure => caller attached closure arguments
  | other => .fail (.component ("not a function: " ++ other.typeName))

/-- The element that an expression makes. Properties that are not an object are none. -/
def elementValue (serial : Nat) (kind : ElementKind) (key : Option String) (props : Value)
    (reference : Option Value) : Value :=
  .element
    { serial, part := none, kind, key, reference, props := props.fields?.getD [] }

mutual

def eval (code : Code) (caller : Caller) (frame : Frame) : Expr → Body Value
  | .constant value => .done value
  | .array items => do return .array (← evalAll code caller frame items)
  | .object fields => do
      return .object (Fields.ofEntries (← evalFields code caller frame fields))
  | .function number =>
      .serial fun serial => .done (.function { serial, code := number, scope := frame.scope })
  | .html template values => do
      let values ← evalAll code caller frame values
      if frame.attached then .html template values .ofAnswer else .fail detached
  | .create template values => do
      let values ← evalAll code caller frame values
      if frame.attached then .create template values .ofAnswer else .fail detached
  | .element kind key props reference => do
      let props ← evalOption code caller frame props
      let reference ← evalOption code caller frame reference
      .serial fun serial =>
        .done (elementValue serial kind key (props.getD .undefined) reference)
  | .prop name => .done ((Fields.get? frame.scope.props name).getD .undefined)
  | .props => .done (.object frame.scope.props)
  | .propNames => .done (.string (String.intercalate "," (Fields.names frame.scope.props)))
  | .reference => .done frame.scope.reference
  | .state => .done frame.scope.state
  | .argument index => .done (frame.arguments.getD index .undefined)
  | .context name =>
      if frame.attached then
        .context name fun value => .done value
      else
        .done (code.contextDefault name)
  | .call function arguments => do
      let callee ← eval code caller frame function
      let arguments ← evalAll code caller frame arguments
      callValue caller frame.attached callee arguments
  | .text value => do return .string (← eval code caller frame value).text
  | .get value name => do
      return ((← eval code caller frame value).get? name).getD .undefined
  | .choose condition yes no => do
      let holds ← eval code caller frame condition
      if holds.isTruthy then eval code caller frame yes else eval code caller frame no
  | .throw message => .fail (.component message)

def evalAll (code : Code) (caller : Caller) (frame : Frame) : List Expr → Body (List Value)
  | [] => .done []
  | first :: rest => do
      let value ← eval code caller frame first
      let values ← evalAll code caller frame rest
      return value :: values

/-- Evaluates the fields of an object in order. -/
def evalFields (code : Code) (caller : Caller) (frame : Frame)
    : List (String × Expr) → Body (List (String × Value))
  | [] => .done []
  | (name, first) :: rest => do
      let value ← eval code caller frame first
      let fields ← evalFields code caller frame rest
      return (name, value) :: fields

/-- Evaluates an expression that may be missing. -/
def evalOption (code : Code) (caller : Caller) (frame : Frame)
    : Option Expr → Body (Option Value)
  | none => .done none
  | some value => do return some (← eval code caller frame value)

end

/-- How deep the calls of functions may be nested in an expression. -/
def callLimit : Nat :=
  10000

/-- Calls a function inside which a number of calls may still be nested. -/
def callFunction (code : Code) : Nat → Caller
  | 0 => fun _ _ _ => .fail (.component "too many nested calls")
  | more + 1 => fun attached closure arguments =>
      match code.functions[closure.code]? with
      | some body =>
          eval code (callFunction code more)
            { scope := closure.scope, arguments, attached } body
      | none => .done .undefined

/-- Evaluates an expression with the functions of the script. -/
def Code.eval (code : Code) (frame : Frame) (expr : Expr) : Body Value :=
  Script.eval code (callFunction code callLimit) frame expr

def Code.evalFunction (code : Code) (frame : Frame) (number : Nat) : Body Value :=
  match code.functions[number]? with
  | some body => code.eval frame body
  | none => .done .undefined

/-- The code of a component with a state. The state is constructed without an engine, and is
undefined when that fails. -/
def Code.statefulCode (code : Code) (number : Nat) : StatefulCode :=
  match code.stateful[number]? with
  | none =>
      {
        construct := fun _ => .done .undefined
        willMount := id
        render := fun _ _ => .done .undefined
      }
  | some definition =>
      {
        construct := fun props => do
          let outcome ←
            (code.eval (.ofProps props .undefined .undefined false) definition.construct).outcome
          match outcome with
          | .ok state => return state
          | .error _ => return .undefined
        willMount := fun state =>
          match definition.mount with
          | some amount => .number (state.toNumber.add amount)
          | none => state
        render := fun state props =>
          code.eval (.ofProps props .undefined state true) definition.render
      }

def Code.host (code : Code) : Host where
  function number props := code.evalFunction (.ofProps props .undefined .undefined true) number
  forwardRef number props reference :=
    code.evalFunction (.ofProps props (reference.getD .undefined) .undefined true) number
  stateful := code.statefulCode
  call closure arguments := callFunction code callLimit true closure arguments
  contextDefault := code.contextDefault

end TaggedMarkup.Script
