/-! A location names a fragment of a template and a byte of its UTF-8 form. -/

namespace TaggedMarkup

/-- A place in the fragments of a template. -/
structure Location where
  fragment : Nat
  offset : Nat
deriving DecidableEq, Repr, Inhabited

def Location.describe (location : Location) : String :=
  s!"fragment {location.fragment}, offset {location.offset}"

end TaggedMarkup
