/-! A resolver says what the name of a tag refers to while a template is read. -/

namespace TaggedMarkup

inductive Resolution where
  /-- A component that runs when the template is rendered. -/
  | component
  /-- Another name for a host element. -/
  | alias (tag : String)
  /-- Nothing known; the name is that of a host element. -/
  | unknown
deriving DecidableEq, Repr

structure Resolver where
  resolve : String → Resolution
  /-- Whether two names refer to one component. -/
  sameComponent : String → String → Bool

def Resolver.empty : Resolver where
  resolve _ := .unknown
  sameComponent first second := first == second

end TaggedMarkup
