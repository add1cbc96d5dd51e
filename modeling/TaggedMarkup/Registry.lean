import TaggedMarkup.Component
import TaggedMarkup.Error
import TaggedMarkup.Fields
import TaggedMarkup.Html.Tag
import TaggedMarkup.Resolver

/-! The registry holds the components that can be used as tags. -/

namespace TaggedMarkup

structure Registry where
  components : Fields Component := []
deriving DecidableEq, Repr

namespace Registry

def find? (registry : Registry) (name : String) : Option Component :=
  Fields.get? registry.components name

def contains (registry : Registry) (name : String) : Bool :=
  (registry.find? name).isSome

def size (registry : Registry) : Nat :=
  registry.components.length

/-- The names in the order of their code points. -/
def sortedNames (registry : Registry) : List String :=
  (Fields.names registry.components).mergeSort (fun first second => decide (first ≤ second))

/-- What keeps a component from being registered under a name. -/
def refusal? (name : String) (component : Component) : Option Error :=
  if !Html.isPascalCase name then
    some (.invalidComponentName name)
  else
    match component with
    | .alias tag => if Html.isHostName tag then none else some (.unsupportedAlias name)
    | _ => none

/-- Registers a component, and says whether the name means something else than before. -/
def register (registry : Registry) (name : String) (component : Component)
    : Except Error (Bool × Registry) :=
  match refusal? name component with
  | some error => .error error
  | none =>
      .ok (registry.find? name != some component,
        ⟨Fields.insert registry.components name component⟩)

def resolve (registry : Registry) (name : String) : Resolution :=
  match registry.find? name with
  | some (.alias tag) => .alias tag
  | some _ => .component
  | none => .unknown

/-- Whether two names are registered for one component, or are the same name. -/
def sameComponent (registry : Registry) (first second : String) : Bool :=
  match registry.find? first, registry.find? second with
  | some one, some other => one == other
  | _, _ => first == second

/-- The registry as the knowledge of component names. -/
def resolver (registry : Registry) : Resolver where
  resolve := registry.resolve
  sameComponent := registry.sameComponent

end Registry

end TaggedMarkup
