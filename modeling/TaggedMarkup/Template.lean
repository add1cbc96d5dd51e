/-! A template is its literal fragments. Between each two of them there is one slot for a
value. Templates are the same when their numbers are equal.
-/

namespace TaggedMarkup

structure Template where
  id : Nat
  fragments : List String
deriving DecidableEq, Repr

def slotCount (fragments : List String) : Nat :=
  fragments.length - 1

end TaggedMarkup
