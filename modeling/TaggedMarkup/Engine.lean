import TaggedMarkup.Render.Value

/-! An engine reads, compiles and renders templates. What it has read and compiled stays with
it until a component name that a template depends on means something else. The code of a component
can start renders of its own, which the engine does like all others.
-/

namespace TaggedMarkup

/-- Changes of the values before a render and of the markup after it, in order. -/
structure Plugins where
  before : List (List Value → List Value) := []
  after : List (String → String) := []

namespace Plugins

def isEmpty (plugins : Plugins) : Bool :=
  plugins.before.isEmpty && plugins.after.isEmpty

def applyBefore (plugins : Plugins) (values : List Value) : List Value :=
  plugins.before.foldl (fun changed plugin => plugin changed) values

/-- The markup as it is given out. -/
def applyAfter (plugins : Plugins) (markup : String) : String :=
  plugins.after.foldl (fun changed plugin => plugin changed) markup

end Plugins

/-- The options of a render, which may be one of static markup. -/
def Settings.renderOptions (settings : Settings) (static : Bool) : RenderOptions :=
  if static then
    { settings.options.render with staticMarkup := true }
  else
    settings.options.render

/-- Renders a value with nothing around it. What is written goes through the plugins. -/
def Render.give (cx : RenderSettings) (plugins : Plugins) (value : Value) : Work String :=
  fun store =>
    let (result, state) := (renderRoot cx value).run { store }
    (result.map fun _ => plugins.applyAfter (Piece.renderAll state.output.toList), state.store)

/-- Finds what is to be rendered. Values go through the plugins before they are bound. -/
def Work.subject (settings : Settings) (plugins : Plugins) : RenderRequest → Work Value
  | .template _ template values => html settings template (plugins.applyBefore values)
  | .value _ value => pure value
  | .fragments fragments values => do
      return .markup (← markupOfFragments settings fragments (plugins.applyBefore values))

/-- Does a render in which code may start others, the given number of them inside one another. -/
def Host.render (host : Host) (settings : Settings) (plugins : Plugins)
    : Nat → RenderRequest → Work String
  | 0 => RenderRequest.refused
  | levels + 1 => fun request => do
      let value ← Work.subject settings plugins request
      let cx : RenderSettings :=
        { settings
          options := settings.renderOptions request.isStatic
          host
          inner := host.render settings plugins levels }
      Render.give cx plugins value

/-- An engine with its components, options, plugins and templates. -/
structure Engine where
  settings : Settings := {}
  plugins : Plugins := {}
  store : Store := {}

namespace Engine

def ofOptions (options : Options) : Engine :=
  { settings := { options } }

/-- The settings of a render. -/
def rendering (engine : Engine) (host : Host) (static : Bool) : RenderSettings :=
  { settings := engine.settings
    options := engine.settings.renderOptions static
    host
    inner := host.render engine.settings engine.plugins host.levels }

/-- Registers one component. Templates that depend on its name are dropped when the name
means something else now. -/
def registerOne (engine : Engine) (name : String) (component : Component)
    : Except Error Engine :=
  match engine.settings.registry.register name component with
  | .error error => .error error
  | .ok (changed, registry) =>
      let cache :=
        if changed then (engine.store.cache.invalidate name).2 else engine.store.cache
      .ok
        { engine with
          settings := { engine.settings with registry }
          store := { engine.store with cache } }

/-- Registers components in order up to the first that is refused. -/
def register (engine : Engine) : List (String × Component) → Except Error Unit × Engine
  | [] => (.ok (), engine)
  | (name, component) :: rest =>
      match engine.registerOne name component with
      | .error error => (.error error, engine)
      | .ok changed => register changed rest

def clearCache (engine : Engine) : Engine :=
  { engine with store := { engine.store with cache := engine.store.cache.clear } }

/-- Does work on the templates of the engine. -/
def doWork {α : Type} (engine : Engine) (work : Work α) : Except Error α × Engine :=
  let (result, store) := work.run engine.store
  (result, { engine with store })

/-- Runs code outside of a render, where every context has its default. -/
def runBody {α : Type} (engine : Engine) (host : Host) (body : Body α)
    : Except Error α × Engine :=
  let inner := host.render engine.settings engine.plugins host.levels
  engine.doWork (body.run engine.settings inner host.contextDefault)

def parse (engine : Engine) (template : Template) : Except Error CacheEntry × Engine :=
  engine.doWork (Work.entry engine.settings template)

def compile (engine : Engine) (template : Template) : Except Error Compiled × Engine :=
  engine.doWork (Work.compile engine.settings template)

/-- A template with its values, as a value. -/
def html (engine : Engine) (template : Template) (values : List Value)
    : Except Error Value × Engine :=
  engine.doWork (Work.html engine.settings template values)

/-- The elements of a template with its values. -/
def createElement (engine : Engine) (template : Template) (values : List Value)
    : Except Error Value × Engine :=
  engine.doWork (Work.createElement engine.settings template values)

/-- Does a render. -/
def perform (engine : Engine) (host : Host) (request : RenderRequest)
    : Except Error String × Engine :=
  engine.doWork (host.render engine.settings engine.plugins (host.levels + 1) request)

def renderValue (engine : Engine) (host : Host) (static : Bool) (value : Value)
    : Except Error String × Engine :=
  engine.perform host (.value static value)

def render (engine : Engine) (host : Host) (static : Bool) (template : Template)
    (values : List Value) : Except Error String × Engine :=
  engine.perform host (.template static template values)

def renderFragments (engine : Engine) (host : Host) (fragments : List String)
    (values : List Value) : Except Error String × Engine :=
  engine.perform host (.fragments fragments values)

end Engine

end TaggedMarkup
