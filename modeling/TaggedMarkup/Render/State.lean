import TaggedMarkup.Body
import TaggedMarkup.Text.Escape

/-! The state of one render: what has been written, and what the elements and components
around the present place say.
-/

namespace TaggedMarkup

/-- What stays the same during a render. -/
structure RenderSettings where
  settings : Settings
  options : RenderOptions
  host : Host
  /-- Does the renders that code starts. -/
  inner : RenderRequest → Work String := RenderRequest.refused

structure RenderState where
  store : Store
  /-- The pieces written so far, in order. -/
  output : Array Piece := #[]
  /-- Whether the first element has been written. -/
  rootMarked : Bool := false
  /-- The values of the selections around, the innermost first. -/
  selections : List Value := []
  /-- The contexts provided around, the innermost first. -/
  providers : List (String × Value) := []
  /-- How many components the present place is inside of. -/
  depth : Nat := 0

/-- The state one component deeper. -/
def RenderState.deeper (state : RenderState) : RenderState :=
  { state with depth := state.depth + 1 }

/-- A render that fails or yields a result, with its changes. -/
abbrev Render := ExceptT Error (StateM RenderState)

namespace Render

def write (piece : Piece) : Render Unit :=
  modify fun state => { state with output := state.output.push piece }

def writeAll : List Piece → Render Unit
  | [] => pure ()
  | piece :: rest => do
      write piece
      writeAll rest

def endsInText (output : Array Piece) : Bool :=
  match output.back? with
  | some (.text _) => true
  | _ => false

/-- Writes escaped text. A separator comes before it when text was written last. -/
def writeText (options : RenderOptions) (escaped : String) : Render Unit := do
  let state ← get
  if endsInText state.output && !options.staticMarkup then
    write .separator
  write (.text escaped)

/-- Marks the first element of the render. -/
def writeRootMarker (options : RenderOptions) : Render Unit := do
  let state ← get
  if state.rootMarked then
    pure ()
  else
    set { state with rootMarked := true }
    if options.rootMarker && !options.staticMarkup then
      write .rootMarker

def writeOrFail : Except Error (List Piece) → Render Unit
  | .ok pieces => writeAll pieces
  | .error error => throw error

def pushSelection (value : Value) : Render Unit :=
  modify fun state => { state with selections := value :: state.selections }

def popSelection : Render Unit :=
  modify fun state => { state with selections := state.selections.tail }

def pushProvider (context : String) (value : Value) : Render Unit :=
  modify fun state => { state with providers := (context, value) :: state.providers }

def popProvider : Render Unit :=
  modify fun state => { state with providers := state.providers.tail }

/-- Goes into a component, unless it would be nested too deep. -/
def enter (options : RenderOptions) : Render Unit := do
  let state ← get
  if options.maxDepth ≤ state.depth then
    throw (.recursionLimit options.maxDepth)
  else
    modify RenderState.deeper

/-- Comes out of a component. -/
def leave : Render Unit :=
  modify fun state => { state with depth := state.depth - 1 }

/-- The value of a context: that of the innermost provider, or the default. -/
def contextValue (host : Host) (providers : List (String × Value)) (context : String) : Value :=
  (providers.lookup context).getD (host.contextDefault context)

def doWork {α : Type} (work : Work α) : Render α :=
  fun state =>
    let (result, store) := work state.store
    (result, { state with store })

def runBody {α : Type} (cx : RenderSettings) (body : Body α) : Render α := do
  let state ← get
  doWork (body.run cx.settings cx.inner (contextValue cx.host state.providers))

end Render

end TaggedMarkup
