import TaggedMarkup.Store

/-! What the code of a component does is a tree of requests. It can bind templates, make
elements, read contexts, ask for serial numbers and fail, and it can turn to the engine that
renders it. An answer to a request decides how the code goes on.

Code gets the engine for reading only, so it registers no components and empties no cache. How
often the cache was used is the one thing that it is assumed not to ask for.
-/

namespace TaggedMarkup

/-- A render that code starts, of a template, a value or fragments. It begins with nothing around
it, and what it writes is given to the code. -/
inductive RenderRequest where
  | template (static : Bool) (template : Template) (values : List Value)
  | value (static : Bool) (value : Value)
  | fragments (fragments : List String) (values : List Value)

namespace RenderRequest

/-- Whether static markup is asked for. -/
def isStatic : RenderRequest → Bool
  | .template static _ _ | .value static _ => static
  | .fragments _ _ => false

/-- The answer when too many renders are inside one another. -/
def refused : RenderRequest → Work String :=
  fun _ => throw (.component "renders are inside one another without end")

end RenderRequest

/-- What code asks the engine for. -/
inductive EngineRequest where
  /-- The components and the options. -/
  | settings
  | parse (template : Template)
  | compile (template : Template)
  | render (request : RenderRequest)

namespace EngineRequest

/-- What the engine answers with. -/
def Answer : EngineRequest → Type
  | .settings => Settings
  | .parse _ => Except Error Tree
  | .compile _ => Except Error Compiled
  | .render _ => Except Error String

/-- Does a request. `inner` does the renders. -/
def perform (settings : Settings) (inner : RenderRequest → Work String)
    : (request : EngineRequest) → Work request.Answer
  | .settings => pure settings
  | .parse template => (Work.parse settings template).outcome
  | .compile template => (Work.compile settings template).outcome
  | .render request => (inner request).outcome

end EngineRequest

/-- Code that yields a value of a type. -/
inductive Body (α : Type) where
  | done (result : α)
  | fail (error : Error)
  | serial (next : Nat → Body α)
  | context (name : String) (next : Value → Body α)
  | html (template : Template) (values : List Value) (next : Except Error Value → Body α)
  | create (template : Template) (values : List Value) (next : Except Error Value → Body α)
  | ask (request : EngineRequest) (next : request.Answer → Body α)

namespace Body

variable {α β : Type}

def bind (body : Body α) (next : α → Body β) : Body β :=
  match body with
  | .done result => next result
  | .fail error => .fail error
  | .serial go => .serial fun number => (go number).bind next
  | .context name go => .context name fun value => (go value).bind next
  | .html template values go => .html template values fun answer => (go answer).bind next
  | .create template values go => .create template values fun answer => (go answer).bind next
  | .ask request go => .ask request fun answer => (go answer).bind next

instance : Monad Body where
  pure := .done
  bind := bind

/-- Goes on with what the code yields, be it a result or a failure. -/
def outcome (body : Body α) : Body (Except Error α) :=
  match body with
  | .done result => .done (.ok result)
  | .fail error => .done (.error error)
  | .serial go => .serial fun number => (go number).outcome
  | .context name go => .context name fun value => (go value).outcome
  | .html template values go => .html template values fun answer => (go answer).outcome
  | .create template values go => .create template values fun answer => (go answer).outcome
  | .ask request go => .ask request fun answer => (go answer).outcome

/-- The code that only answers a request or fails. -/
def ofAnswer : Except Error α → Body α
  | .ok result => .done result
  | .error error => .fail error

/-- Does the requests in order. `inner` does the renders that the code starts and `contexts` gives
the values of contexts. -/
def run (settings : Settings) (inner : RenderRequest → Work String) (contexts : String → Value)
    : Body α → Work α
  | .done result => pure result
  | .fail error => throw error
  | .serial next => do
      let number ← Work.freshSerial
      run settings inner contexts (next number)
  | .context name next => run settings inner contexts (next (contexts name))
  | .html template values next => do
      let answer ← (Work.html settings template values).outcome
      run settings inner contexts (next answer)
  | .create template values next => do
      let answer ← (Work.createElement settings template values).outcome
      run settings inner contexts (next answer)
  | .ask request next => do
      let answer ← request.perform settings inner
      run settings inner contexts (next answer)

end Body

/-- The code of a component with a state. The state is constructed anew for every render. -/
structure StatefulCode where
  construct : Props → Body Value
  willMount : Value → Value
  render : Value → Props → Body Value

/-- What the numbers of code and the names of contexts stand for. Code is assumed to come to an
end, so there is a number of renders inside one another that is enough for it. -/
structure Host where
  function : Nat → Props → Body Value
  forwardRef : Nat → Props → Option Value → Body Value
  stateful : Nat → StatefulCode
  call : Closure Value → List Value → Body Value
  contextDefault : String → Value
  /-- How many of the renders that code starts may be inside one another. -/
  levels : Nat := 0

end TaggedMarkup
