import TaggedMarkup.Number.Binary64

/-! The shortest decimal of a finite number is the one with the fewest digits among the
decimals that round to it, and the nearest of those. The decimals that round to a number
fill an interval around it, so on each decimal grid only the two neighbours of the number
have to be tried, from the coarsest grid to the finest.
-/

namespace TaggedMarkup

/-- A positive decimal `digits * 10 ^ exponent`. -/
structure Decimal where
  digits : Nat
  exponent : Int
deriving DecidableEq, Repr

namespace Binary64

/-- What a decimal halfway between two candidates becomes. -/
inductive Tie where
  | toEven
  | upward
deriving DecidableEq, Repr

/-- The interval of the reals that round to a positive finite number. The three sizes share
one denominator, and the ends belong to the interval when the significand is even. -/
structure RoundingInterval where
  lower : Nat
  value : Nat
  upper : Nat
  denominator : Nat
  closed : Bool
deriving DecidableEq, Repr

/-- Half a step to either side, in quarters of a step. Below a power of two the steps are half
as wide, except at the least exponent. -/
def roundingInterval (x : Binary64) : RoundingInterval :=
  let scale := powerOfTwo x.exponent.toNat
  let below := if x.significand = powerOfTwo 52 ∧ -1074 < x.exponent then 1 else 2
  {
    lower := (4 * x.significand - below) * scale
    value := 4 * x.significand * scale
    upper := (4 * x.significand + 2) * scale
    denominator := 4 * powerOfTwo (-x.exponent).toNat
    closed := x.significand % 2 = 0
  }

namespace RoundingInterval

/-- Whether `count * 10 ^ grid` lies in the interval. -/
def contains (interval : RoundingInterval) (count : Nat) (grid : Int) : Bool :=
  let point := count * powerOfTen grid.toNat * interval.denominator
  let unit := powerOfTen (-grid).toNat
  if interval.closed then
    interval.lower * unit ≤ point && point ≤ interval.upper * unit
  else
    interval.lower * unit < point && point < interval.upper * unit

/-- The number of steps of the grid below the value, and the rest with its unit. -/
def onGrid (interval : RoundingInterval) (grid : Int) : Nat × Nat × Nat :=
  let numerator := interval.value * powerOfTen (-grid).toNat
  let denominator := interval.denominator * powerOfTen grid.toNat
  (numerator / denominator, numerator % denominator, denominator)

/-- The nearest neighbour of the value on the grid that lies in the interval. -/
def neighbour? (tie : Tie) (interval : RoundingInterval) (grid : Int) : Option Nat :=
  let (floor, rest, unit) := interval.onGrid grid
  match interval.contains floor grid, interval.contains (floor + 1) grid with
  | false, false => none
  | true, false => some floor
  | false, true => some (floor + 1)
  | true, true =>
      if 2 * rest < unit then
        some floor
      else if unit < 2 * rest then
        some (floor + 1)
      else
        match tie with
        | .upward => some (floor + 1)
        | .toEven => if floor % 2 = 0 then some floor else some (floor + 1)

/-- The decimal place above the first digit of the value. -/
def topPlace (interval : RoundingInterval) : Int :=
  let guess : Int :=
    ((Nat.toDigits 10 interval.value).length : Int)
      - ((Nat.toDigits 10 interval.denominator).length : Int)
  let reached :=
    powerOfTen guess.toNat * interval.denominator ≤ interval.value * powerOfTen (-guess).toNat
  if reached then guess + 1 else guess

/-- Tries the grid and then the finer ones, as many as `finer` says. -/
def search (tie : Tie) (interval : RoundingInterval) : Nat → Int → Decimal
  | 0, grid => ⟨(interval.onGrid grid).1, grid⟩
  | finer + 1, grid =>
      match interval.neighbour? tie grid with
      | some count => ⟨count, grid⟩
      | none => search tie interval finer (grid - 1)

end RoundingInterval

/-- The shortest decimal of a positive finite number. Seventeen digits always suffice, and
rounding up to the next power of ten leaves a zero that is dropped. -/
def shortest (tie : Tie) (x : Binary64) : Decimal :=
  let interval := x.roundingInterval
  let found := interval.search tie 17 (interval.topPlace - 1)
  if found.digits % 10 = 0 then
    ⟨found.digits / 10, found.exponent + 1⟩
  else
    found

end Binary64

end TaggedMarkup
