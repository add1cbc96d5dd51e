/-! Powers of the two bases that numbers are written in. -/

namespace TaggedMarkup

abbrev powerOfTwo (power : Nat) : Nat :=
  Nat.pow 2 power

abbrev powerOfTen (power : Nat) : Nat :=
  Nat.pow 10 power

end TaggedMarkup
