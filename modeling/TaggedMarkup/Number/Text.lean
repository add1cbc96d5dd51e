import TaggedMarkup.Number.Shortest
import TaggedMarkup.Text.Blank

/-! The text of a number and the number of a text. Whole numbers below `10 ^ 21` are written
with all of their digits, other numbers with the fewest digits that read back. A text is
read as a number when all of it, apart from surrounding blanks, is a decimal, a hexadecimal
integer or an infinity; the empty text is zero.
-/

namespace TaggedMarkup

namespace Decimal

/-- The digits of the decimal as characters. -/
def digitChars (d : Decimal) : List Char :=
  Nat.toDigits 10 d.digits

/-- The place of the decimal point, counted from the first digit. -/
def pointPlace (d : Decimal) : Int :=
  (d.digitChars.length : Int) + d.exponent

/-- One digit, the others after a point, and the exponent after `e`. A positive exponent has
a sign. -/
def scientific (d : Decimal) : List Char :=
  let exponent := d.pointPlace - 1
  let mantissa :=
    match d.digitChars with
    | first :: second :: rest => first :: '.' :: second :: rest
    | digits => digits
  let sign := if exponent < 0 then ['-'] else ['+']
  mantissa ++ 'e' :: sign ++ Nat.toDigits 10 exponent.natAbs

/-- The digits with a point and the zeros that their places need. -/
def positional (d : Decimal) : List Char :=
  let digits := d.digitChars
  if d.pointPlace ≤ 0 then
    '0' :: '.' :: List.replicate d.pointPlace.natAbs '0' ++ digits
  else if d.pointPlace < digits.length then
    digits.take d.pointPlace.toNat ++ '.' :: digits.drop d.pointPlace.toNat
  else
    digits ++ List.replicate d.exponent.toNat '0'

end Decimal

namespace Binary64

/-- The text of the size of a finite number that is not zero. Below `10 ^ -6` and from
`10 ^ 21` on there is an exponent, and a tie between two shortest decimals goes up. In
between it goes to the even digit, and a number below `10 ^ -5` still has an exponent. -/
def sizeChars (x : Binary64) : List Char :=
  let upward := x.shortest .upward
  if 21 < upward.pointPlace ∨ upward.pointPlace < -5 then
    upward.scientific
  else if x.isWhole then
    Nat.toDigits 10 x.wholePart
  else
    let even := x.shortest .toEven
    if even.pointPlace < -4 then even.scientific else even.positional

/-- The text of a number, as a script writes it. -/
def text (x : Binary64) : String :=
  if x.isNaN then
    "NaN"
  else if x.isInfinite then
    if x.isNegative then "-Infinity" else "Infinity"
  else if x.isZero then
    "0"
  else if x.isNegative then
    String.ofList ('-' :: x.sizeChars)
  else
    String.ofList x.sizeChars

end Binary64

namespace Numeral

def digit? (c : Char) : Option Nat :=
  if '0' ≤ c ∧ c ≤ '9' then some (c.toNat - '0'.toNat) else none

/-- The value of a hexadecimal digit of either case. -/
def hexDigit? (c : Char) : Option Nat :=
  if '0' ≤ c ∧ c ≤ '9' then
    some (c.toNat - '0'.toNat)
  else if 'a' ≤ c ∧ c ≤ 'f' then
    some (c.toNat - 'a'.toNat + 10)
  else if 'A' ≤ c ∧ c ≤ 'F' then
    some (c.toNat - 'A'.toNat + 10)
  else
    none

/-- The natural number that digits of a base write. -/
def digitsValue (base : Nat) (digits : List Nat) : Nat :=
  digits.foldl (fun value digit => value * base + digit) 0

/-- A sign before the rest, which is positive when there is none. -/
def signed : List Char → Bool × List Char
  | '-' :: rest => (true, rest)
  | '+' :: rest => (false, rest)
  | chars => (false, chars)

/-- The digits at the front and what follows them. -/
def leadingDigits (chars : List Char) : List Nat × List Char :=
  ((chars.takeWhile (fun c => (digit? c).isSome)).filterMap digit?,
    chars.dropWhile (fun c => (digit? c).isSome))

/-- The exponent that ends a decimal, zero when nothing is left. -/
def exponent? : List Char → Option Int
  | [] => some 0
  | c :: rest =>
      if c = 'e' ∨ c = 'E' then
        let (negative, digitChars) := signed rest
        match leadingDigits digitChars with
        | (digit :: digits, []) =>
            let value : Int := digitsValue 10 (digit :: digits)
            some (if negative then -value else value)
        | _ => none
      else
        none

/-- A decimal without its sign: digits with an optional fraction, at least one digit in all,
and an optional exponent. -/
def unsignedDecimal? (chars : List Char) : Option (Nat × Int) :=
  let (whole, afterWhole) := leadingDigits chars
  let (fraction, afterFraction) :=
    match afterWhole with
    | '.' :: rest => leadingDigits rest
    | rest => ([], rest)
  if whole = [] ∧ fraction = [] then
    none
  else
    (exponent? afterFraction).map fun exponent =>
      (digitsValue 10 (whole ++ fraction), exponent - fraction.length)

def decimal? (chars : List Char) : Option Binary64 :=
  let (negative, rest) := signed chars
  (unsignedDecimal? rest).map fun (digits, exponent) =>
    Binary64.ofDecimal negative digits exponent

/-- A hexadecimal integer of sixty-four bits, which may have a sign. -/
def hexadecimal? (chars : List Char) : Option Binary64 :=
  let (negative, rest) := signed chars
  match rest.mapM hexDigit? with
  | none | some [] => none
  | some digits =>
      let size := digitsValue 16 digits
      if size < powerOfTwo 63 then
        some (Binary64.ofInt (if negative then -size else size))
      else if negative ∧ size = powerOfTwo 63 then
        some (Binary64.ofInt (-size))
      else
        none

/-- The number that a text without surrounding blanks writes, if it writes one. -/
def number? : List Char → Option Binary64
  | [] => some (Binary64.zero false)
  | '0' :: 'x' :: rest | '0' :: 'X' :: rest => hexadecimal? rest
  | chars =>
      if chars = "Infinity".toList ∨ chars = "+Infinity".toList then
        some (Binary64.infinity false)
      else if chars = "-Infinity".toList then
        some (Binary64.infinity true)
      else
        decimal? chars

end Numeral

/-- The number of a text: a NaN when the text writes none. -/
def Binary64.ofText (text : String) : Binary64 :=
  (Numeral.number? (Text.trimmed text.toList)).getD Binary64.nan

end TaggedMarkup
