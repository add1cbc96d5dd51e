/-! A component is what a capitalised tag can stand for. Components that run code hold the
number of their code, so equal components are the same component.
-/

namespace TaggedMarkup

inductive Component where
  /-- Code from the properties to a value. -/
  | function (code : Nat)
  /-- Code that constructs a state before it renders. -/
  | stateful (code : Nat)
  /-- Makes its `value` property visible to the consumers of a context. -/
  | provider (context : String)
  /-- Calls its function child with the value of a context. -/
  | consumer (context : String)
  | memo (inner : Component)
  /-- Code that also receives the reference of the element. -/
  | forwardRef (code : Nat)
  | fragment
  | alias (tag : String)
deriving DecidableEq, Repr

/-- The kind of a component in a word. -/
def Component.kindName : Component → String
  | .function _ => "function"
  | .stateful _ => "class"
  | .provider _ => "provider"
  | .consumer _ => "consumer"
  | .memo _ => "memo"
  | .forwardRef _ => "forward_ref"
  | .fragment => "fragment"
  | .alias _ => "alias"

end TaggedMarkup
