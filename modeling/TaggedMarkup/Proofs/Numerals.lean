import Mathlib.Data.List.Basic
import TaggedMarkup.Proofs.JsonTexts
import TaggedMarkup.WrittenAttribute

/-! Which texts are numbers. The grammar is that of numeric strings in a script: nothing, a signed
decimal or infinity, or a whole number with the prefix of its base. A text is read as a number when
the grammar spells it, apart from some texts with such a prefix.
-/

namespace TaggedMarkup

-----------------------------------------------------------------------------------------
-- Numbers that are no NaN
-----------------------------------------------------------------------------------------

namespace Binary64

theorem isNaN_ofMagnitude (negative : Bool) {magnitude : Nat}
    (small : magnitude ≤ infiniteMagnitude)
    : (ofMagnitude negative magnitude).isNaN = false := by
  have bound : infiniteMagnitude < 9223372036854775808 := by decide
  have sign : powerOfTwo 63 = 9223372036854775808 := by decide
  have same : (ofMagnitude negative magnitude).magnitude = magnitude := by
    simp only [Binary64.magnitude, ofMagnitude, UInt64.toNat_ofNat', sign]
    cases negative <;> simp <;> omega
  simp [isNaN, same, small]

theorem isNaN_ofRatio (negative : Bool) (numerator denominator : Nat)
    : (ofRatio negative numerator denominator).isNaN = false := by
  simp only [ofRatio]
  split
  · exact isNaN_ofMagnitude negative (Nat.zero_le _)
  · exact isNaN_ofMagnitude negative (Nat.min_le_right ..)

theorem isNaN_ofDecimal (negative : Bool) (digits : Nat) (exponent : Int)
    : (ofDecimal negative digits exponent).isNaN = false := by
  simp only [ofDecimal]
  split
  · exact isNaN_ofMagnitude negative (Nat.zero_le _)
  split
  · exact isNaN_ofMagnitude negative (Nat.le_refl _)
  split
  · exact isNaN_ofMagnitude negative (Nat.zero_le _)
  · exact isNaN_ofRatio ..

end Binary64

namespace Numeral

open Json (IsDigit IsDigits IsExponent IsHexDigit)

-----------------------------------------------------------------------------------------
-- The grammar
-----------------------------------------------------------------------------------------

/-- A sign, or none. -/
def IsSign (chars : List Char) : Prop :=
  chars ∈ [[], ['+'], ['-']]

/-- Digits, of which some may follow a point, and at least one of them. -/
inductive IsMantissa : List Char → Prop
  | whole {digits} (areDigits : IsDigits digits) : IsMantissa digits
  | point {whole fraction} (areDigits : IsDigits (whole ++ fraction))
    : IsMantissa (whole ++ '.' :: fraction)

/-- A decimal without its sign. -/
def IsUnsigned (chars : List Char) : Prop :=
  ∃ mantissa exponent, chars = mantissa ++ exponent ∧ IsMantissa mantissa ∧ IsExponent exponent

/-- The bases that a prefix can name. -/
inductive Base where
  | sixteen
  | eight
  | two
deriving DecidableEq

namespace Base

/-- What follows the zero of a prefix. -/
def marks : Base → List Char
  | sixteen => ['x', 'X']
  | eight => ['o', 'O']
  | two => ['b', 'B']

def IsDigit : Base → Char → Prop
  | sixteen, c => IsHexDigit c
  | eight, c => '0' ≤ c ∧ c ≤ '7'
  | two, c => c = '0' ∨ c = '1'

instance (base : Base) (c : Char) : Decidable (base.IsDigit c) :=
  match base with
  | sixteen =>
      inferInstanceAs (Decidable (('0' ≤ c ∧ c ≤ '9') ∨ ('a' ≤ c ∧ c ≤ 'f') ∨ ('A' ≤ c ∧ c ≤ 'F')))
  | eight => inferInstanceAs (Decidable ('0' ≤ c ∧ c ≤ '7'))
  | two => inferInstanceAs (Decidable (c = '0' ∨ c = '1'))

/-- Digits of the base, and at least one of them. -/
def IsDigits (base : Base) (chars : List Char) : Prop :=
  chars ≠ [] ∧ ∀ c ∈ chars, base.IsDigit c

instance (base : Base) (chars : List Char) : Decidable (base.IsDigits chars) :=
  decidable_of_iff (chars ≠ [] ∧ chars.all fun c => base.IsDigit c) (by simp [IsDigits])

end Base

/-- The numeric strings of scripts. -/
inductive IsNumeral : List Char → Prop
  | empty : IsNumeral []
  | decimal {sign chars} (isSign : IsSign sign) (isUnsigned : IsUnsigned chars)
    : IsNumeral (sign ++ chars)
  | infinity {sign} (isSign : IsSign sign) : IsNumeral (sign ++ "Infinity".toList)
  | prefixed {base : Base} {mark digits} (isMark : mark ∈ base.marks)
    (areDigits : base.IsDigits digits)
    : IsNumeral ('0' :: mark :: digits)

/-- The whole number that hexadecimal digits write. -/
def hexValue (digits : List Char) : Nat :=
  digitsValue 16 (digits.filterMap hexDigit?)

/-- The texts with a prefix that are not read as scripts read them: hexadecimal digits that are
signed or that are too many for a word, and the other two bases.
-/
inductive IsIrregular : List Char → Prop
  | positive {mark digits} (isMark : mark ∈ Base.sixteen.marks)
    (areDigits : Base.sixteen.IsDigits digits) (fits : hexValue digits < powerOfTwo 63)
    : IsIrregular ('0' :: mark :: '+' :: digits)
  | negative {mark digits} (isMark : mark ∈ Base.sixteen.marks)
    (areDigits : Base.sixteen.IsDigits digits) (fits : hexValue digits ≤ powerOfTwo 63)
    : IsIrregular ('0' :: mark :: '-' :: digits)
  | long {mark digits} (isMark : mark ∈ Base.sixteen.marks)
    (areDigits : Base.sixteen.IsDigits digits) (large : powerOfTwo 63 ≤ hexValue digits)
    : IsIrregular ('0' :: mark :: digits)
  | other {base : Base} {mark digits} (isOther : base ≠ .sixteen) (isMark : mark ∈ base.marks)
    (areDigits : base.IsDigits digits)
    : IsIrregular ('0' :: mark :: digits)

-----------------------------------------------------------------------------------------
-- Decimals
-----------------------------------------------------------------------------------------

theorem isSome_digit? (c : Char) : (digit? c).isSome = true ↔ IsDigit c := by
  simp only [digit?, IsDigit]
  split <;> simp_all

/-- What begins with no digit. -/
def Undigited (chars : List Char) : Prop :=
  ∀ c ∈ chars.head?, ¬ IsDigit c

theorem leadingDigits_append {digits rest : List Char} (areDigits : ∀ c ∈ digits, IsDigit c)
    (ends : Undigited rest)
    : leadingDigits (digits ++ rest) = (digits.filterMap digit?, rest) := by
  have found : ∀ c ∈ digits, (digit? c).isSome = true := fun c member =>
    (isSome_digit? c).mpr (areDigits c member)
  have stops : rest.takeWhile (fun c => (digit? c).isSome) = []
      ∧ rest.dropWhile (fun c => (digit? c).isSome) = rest := by
    cases rest with
    | nil => exact ⟨rfl, rfl⟩
    | cons c rest =>
        have isNone : ¬ (digit? c).isSome = true := fun isSome =>
          ends c rfl ((isSome_digit? c).mp isSome)
        exact ⟨List.takeWhile_cons_of_neg isNone, List.dropWhile_cons_of_neg isNone⟩
  rw [leadingDigits, List.takeWhile_append_of_pos found, List.dropWhile_append_of_pos found,
    stops.1, stops.2, List.append_nil]

/-- Every text is some digits and what begins with no digit, by induction on the text. -/
theorem exists_leadingDigits (chars : List Char)
    : ∃ digits rest, chars = digits ++ rest ∧ (∀ c ∈ digits, IsDigit c) ∧ Undigited rest := by
  induction chars with
  | nil => exact ⟨[], [], rfl, by simp, by simp [Undigited]⟩
  | cons c chars ih =>
      by_cases isDigit : IsDigit c
      · obtain ⟨digits, rest, rfl, areDigits, ends⟩ := ih
        exact ⟨c :: digits, rest, rfl, List.forall_mem_cons.mpr ⟨isDigit, areDigits⟩, ends⟩
      · exact ⟨[], c :: chars, rfl, by simp, by simpa [Undigited] using isDigit⟩

theorem filterMap_digit?_eq_nil {digits : List Char} (areDigits : ∀ c ∈ digits, IsDigit c)
    : digits.filterMap digit? = [] ↔ digits = [] := by
  cases digits with
  | nil => simp
  | cons c digits =>
      obtain ⟨value, isValue⟩ :=
        Option.isSome_iff_exists.mp ((isSome_digit? c).mpr (areDigits c (by simp)))
      simp [isValue]

theorem IsSign.eq {sign : List Char} (isSign : IsSign sign)
    : sign = [] ∨ sign = ['+'] ∨ sign = ['-'] := by
  simpa [IsSign] using isSign

theorem exists_sign (chars : List Char)
    : ∃ sign, IsSign sign ∧ chars = sign ++ (signed chars).2 := by
  unfold signed
  split
  · exact ⟨['-'], by simp [IsSign], rfl⟩
  · exact ⟨['+'], by simp [IsSign], rfl⟩
  · exact ⟨[], by simp [IsSign], rfl⟩

theorem signed_unsigned {chars : List Char} (noSign : ∀ c ∈ chars.head?, c ≠ '+' ∧ c ≠ '-')
    : signed chars = (false, chars) := by
  cases chars with
  | nil => rfl
  | cons c chars =>
      obtain ⟨noPlus, noMinus⟩ := noSign c rfl
      simp [signed, noPlus, noMinus]

theorem signed_append {sign rest : List Char} (isSign : IsSign sign)
    (noSign : ∀ c ∈ rest.head?, c ≠ '+' ∧ c ≠ '-')
    : (signed (sign ++ rest)).2 = rest := by
  rcases isSign.eq with rfl | rfl | rfl
  · rw [List.nil_append, signed_unsigned noSign]
  · rfl
  · rfl

theorem isDigit_ne {c : Char} (isDigit : IsDigit c)
    : c ≠ '+' ∧ c ≠ '-' ∧ c ≠ '.' ∧ c ≠ 'e' ∧ c ≠ 'E' := by
  refine ⟨?_, ?_, ?_, ?_, ?_⟩ <;> rintro rfl <;> revert isDigit <;> unfold IsDigit <;> decide

/-- After the mark and the sign of an exponent there are digits and nothing else. -/
theorem isSome_exponent?_mark {c : Char} {rest digits more : List Char} (isMark : c = 'e' ∨ c = 'E')
    (split : (signed rest).2 = digits ++ more) (areDigits : ∀ c ∈ digits, IsDigit c)
    (ends : Undigited more)
    : (exponent? (c :: rest)).isSome = true ↔ digits ≠ [] ∧ more = [] := by
  have found := leadingDigits_append areDigits ends
  have none := filterMap_digit?_eq_nil areDigits
  rw [exponent?, if_pos isMark]
  simp only [split, found]
  cases isValues : digits.filterMap digit? with
  | nil => simp [none.mp isValues]
  | cons value values =>
      have some : digits ≠ [] := fun isNil => by simp [isNil] at isValues
      cases more <;> simp [some]

/-- An exponent is read when it is one. -/
theorem isSome_exponent? (chars : List Char)
    : (exponent? chars).isSome = true ↔ IsExponent chars := by
  constructor
  · intro isSome
    cases chars with
    | nil => exact .none
    | cons c rest =>
        by_cases isMark : c = 'e' ∨ c = 'E'
        · obtain ⟨sign, isSign, isRest⟩ := exists_sign rest
          obtain ⟨digits, more, split, areDigits, ends⟩ := exists_leadingDigits (signed rest).2
          obtain ⟨some, rfl⟩ := (isSome_exponent?_mark isMark split areDigits ends).mp isSome
          rw [isRest, split, List.append_nil]
          exact .marked (by simpa using isMark) isSign ⟨some, areDigits⟩
        · simp [exponent?, isMark] at isSome
  · rintro (_ | ⟨isMark, isSign, ⟨some, areDigits⟩⟩)
    · rfl
    next mark sign digits =>
        have split : (signed (sign ++ digits)).2 = digits ++ [] := by
          rw [List.append_nil]
          refine signed_append isSign fun c isHead => ?_
          have apart := isDigit_ne (areDigits c (List.mem_of_mem_head? isHead))
          exact ⟨apart.1, apart.2.1⟩
        exact (isSome_exponent?_mark (by simpa using isMark) split areDigits
          (by simp [Undigited])).mpr ⟨some, rfl⟩

/-- An exponent begins with no digit and with no point. -/
theorem undigited_exponent {chars : List Char} (isExponent : IsExponent chars)
    : Undigited chars ∧ ∀ rest, chars ≠ '.' :: rest := by
  rcases isExponent with _ | ⟨isMark, isSign, areDigits⟩
  · simp [Undigited]
  · simp only [List.mem_cons, List.not_mem_nil, or_false] at isMark
    rcases isMark with rfl | rfl <;> exact ⟨by simp [Undigited, IsDigit], by simp⟩

theorem isSome_unsignedDecimal?_whole {whole after : List Char}
    (areDigits : ∀ c ∈ whole, IsDigit c) (ends : Undigited after)
    (noPoint : ∀ rest, after ≠ '.' :: rest)
    : (unsignedDecimal? (whole ++ after)).isSome = true ↔ whole ≠ [] ∧ IsExponent after := by
  rw [← isSome_exponent?]
  simp only [unsignedDecimal?, leadingDigits_append areDigits ends,
    filterMap_digit?_eq_nil areDigits]
  by_cases none : whole = [] <;> simp [none]

theorem isSome_unsignedDecimal?_point {whole fraction after : List Char}
    (areDigits : ∀ c ∈ whole ++ fraction, IsDigit c) (ends : Undigited after)
    : (unsignedDecimal? (whole ++ '.' :: (fraction ++ after))).isSome = true
      ↔ whole ++ fraction ≠ [] ∧ IsExponent after := by
  have areWhole : ∀ c ∈ whole, IsDigit c := fun c member => areDigits c (by simp [member])
  have areFraction : ∀ c ∈ fraction, IsDigit c := fun c member => areDigits c (by simp [member])
  have point : Undigited ('.' :: (fraction ++ after)) := by simp [Undigited, IsDigit]
  rw [← isSome_exponent?]
  simp only [unsignedDecimal?, leadingDigits_append areWhole point,
    leadingDigits_append areFraction ends, filterMap_digit?_eq_nil areWhole,
    filterMap_digit?_eq_nil areFraction]
  by_cases none : whole = [] ∧ fraction = [] <;> simp [none]

/-- A decimal is read when it is one. -/
theorem isSome_unsignedDecimal? (chars : List Char)
    : (unsignedDecimal? chars).isSome = true ↔ IsUnsigned chars := by
  constructor
  · intro isSome
    obtain ⟨whole, after, rfl, areWhole, ends⟩ := exists_leadingDigits chars
    by_cases point : ∃ rest, after = '.' :: rest
    · obtain ⟨rest, rfl⟩ := point
      obtain ⟨fraction, after, rfl, areFraction, ends⟩ := exists_leadingDigits rest
      have areDigits : ∀ c ∈ whole ++ fraction, IsDigit c := by
        simpa [or_imp, forall_and] using ⟨areWhole, areFraction⟩
      obtain ⟨some, isExponent⟩ := (isSome_unsignedDecimal?_point areDigits ends).mp isSome
      exact ⟨_, after, by simp, .point ⟨some, areDigits⟩, isExponent⟩
    · obtain ⟨some, isExponent⟩ := (isSome_unsignedDecimal?_whole areWhole ends
        fun rest isPoint => point ⟨rest, isPoint⟩).mp isSome
      exact ⟨whole, after, rfl, .whole ⟨some, areWhole⟩, isExponent⟩
  · rintro ⟨mantissa, exponent, rfl, isMantissa, isExponent⟩
    obtain ⟨ends, noPoint⟩ := undigited_exponent isExponent
    cases isMantissa with
    | whole areDigits =>
        exact (isSome_unsignedDecimal?_whole areDigits.2 ends noPoint).mpr
          ⟨areDigits.1, isExponent⟩
    | point areDigits =>
        rw [List.append_assoc, List.cons_append]
        exact (isSome_unsignedDecimal?_point areDigits.2 ends).mpr ⟨areDigits.1, isExponent⟩

/-- A decimal begins with a digit or a point. -/
theorem head_unsigned {chars : List Char} (isUnsigned : IsUnsigned chars)
    : ∃ c rest, chars = c :: rest ∧ (IsDigit c ∨ c = '.') := by
  obtain ⟨mantissa, exponent, rfl, isMantissa, -⟩ := isUnsigned
  cases isMantissa with
  | whole areDigits =>
      obtain ⟨c, digits, rfl⟩ := List.exists_cons_of_ne_nil areDigits.1
      exact ⟨c, digits ++ exponent, rfl, .inl (areDigits.2 c (by simp))⟩
  | @point whole fraction areDigits =>
      cases whole with
      | nil => exact ⟨'.', fraction ++ exponent, rfl, .inr rfl⟩
      | cons c whole => exact ⟨c, _, rfl, .inl (areDigits.2 c (by simp))⟩

/-- A decimal with its sign is read when it is one. -/
theorem isSome_decimal? (chars : List Char)
    : (decimal? chars).isSome = true
      ↔ ∃ sign unsigned, chars = sign ++ unsigned ∧ IsSign sign ∧ IsUnsigned unsigned := by
  have read : (decimal? chars).isSome = (unsignedDecimal? (signed chars).2).isSome := by
    simp [decimal?]
  rw [read]
  constructor
  · intro isSome
    obtain ⟨sign, isSign, split⟩ := exists_sign chars
    exact ⟨sign, _, split, isSign, (isSome_unsignedDecimal? _).mp isSome⟩
  · rintro ⟨sign, unsigned, rfl, isSign, isUnsigned⟩
    obtain ⟨c, rest, rfl, begins⟩ := head_unsigned isUnsigned
    rw [signed_append isSign, isSome_unsignedDecimal?]
    · exact isUnsigned
    · rintro _ ⟨⟩
      rcases begins with isDigit | rfl
      · exact ⟨(isDigit_ne isDigit).1, (isDigit_ne isDigit).2.1⟩
      · decide

-----------------------------------------------------------------------------------------
-- Prefixes
-----------------------------------------------------------------------------------------

theorem isSome_hexDigit? (c : Char) : (hexDigit? c).isSome = true ↔ IsHexDigit c := by
  simp only [hexDigit?, IsHexDigit, IsDigit]
  split
  · simp_all
  split
  · simp_all
  split <;> simp_all

/-- By induction on the digits. -/
theorem mapM_hexDigit? {digits : List Char} (areDigits : ∀ c ∈ digits, IsHexDigit c)
    : digits.mapM hexDigit? = some (digits.filterMap hexDigit?) := by
  induction digits with
  | nil => rfl
  | cons c digits ih =>
      obtain ⟨isDigit, areDigits⟩ := List.forall_mem_cons.mp areDigits
      obtain ⟨value, isValue⟩ := Option.isSome_iff_exists.mp ((isSome_hexDigit? c).mpr isDigit)
      simp [List.mapM_cons, ih areDigits, isValue]

theorem forall_of_mapM_hexDigit? {chars : List Char} {values : List Nat}
    (found : chars.mapM hexDigit? = some values)
    : ∀ c ∈ chars, IsHexDigit c := by
  induction chars generalizing values with
  | nil => simp
  | cons c chars ih =>
      simp only [List.mapM_cons, Option.bind_eq_bind, Option.bind_eq_some_iff,
        Option.pure_def] at found
      obtain ⟨value, isValue, others, areOthers, -⟩ := found
      exact List.forall_mem_cons.mpr ⟨Json.Reader.isHexDigit_of_hexDigit? isValue, ih areOthers⟩

/-- Hexadecimal digits are read up to the largest word, or to the least one after a minus. -/
theorem isSome_hexadecimal? {chars digits : List Char} {negative : Bool}
    (split : signed chars = (negative, digits))
    : (hexadecimal? chars).isSome = true
      ↔ Base.sixteen.IsDigits digits
        ∧ (hexValue digits < powerOfTwo 63
          ∨ negative = true ∧ hexValue digits = powerOfTwo 63) := by
  simp only [hexadecimal?, split, Base.IsDigits, Base.IsDigit]
  by_cases areDigits : ∀ c ∈ digits, IsHexDigit c
  · rw [mapM_hexDigit? areDigits]
    cases digits with
    | nil => simp
    | cons c digits =>
        obtain ⟨value, isValue⟩ :=
          Option.isSome_iff_exists.mp ((isSome_hexDigit? c).mpr (areDigits c (by simp)))
        have values : (c :: digits).filterMap hexDigit? = value :: digits.filterMap hexDigit? := by
          simp [isValue]
        simp only [values, hexValue]
        generalize digitsValue 16 (value :: digits.filterMap hexDigit?) = size
        generalize powerOfTwo 63 = bound
        by_cases small : size < bound
        · simpa [small] using areDigits
        by_cases least : negative = true ∧ size = bound
        · simpa [least] using areDigits
        · simp [least, small]
  · cases found : digits.mapM hexDigit? with
    | none => simp [areDigits]
    | some values => exact absurd (forall_of_mapM_hexDigit? found) areDigits

theorem mem_unsigned {chars : List Char} (isUnsigned : IsUnsigned chars)
    : ∀ c ∈ chars, IsDigit c ∨ c ∈ ['.', 'e', 'E', '+', '-'] := by
  obtain ⟨mantissa, exponent, rfl, isMantissa, isExponent⟩ := isUnsigned
  have inMantissa : ∀ c ∈ mantissa, IsDigit c ∨ c = '.' := by
    cases isMantissa with
    | whole areDigits => exact fun c member => .inl (areDigits.2 c member)
    | point areDigits =>
        intro c member
        rcases List.mem_append.mp member with isWhole | isLater
        · exact .inl (areDigits.2 c (List.mem_append_left _ isWhole))
        rcases List.mem_cons.mp isLater with rfl | isFraction
        · exact .inr rfl
        · exact .inl (areDigits.2 c (List.mem_append_right _ isFraction))
  intro c member
  rcases List.mem_append.mp member with isFirst | isSecond
  · exact (inMantissa c isFirst).imp_right (by simp +contextual)
  · rcases isExponent with _ | ⟨isMark, isSign, areDigits⟩
    · cases isSecond
    · simp only [List.cons_append, List.mem_cons, List.mem_append, List.not_mem_nil, or_false]
        at isMark isSign isSecond ⊢
      rcases isSecond with rfl | inSign | inDigits
      · exact .inr (by tauto)
      · rcases isSign with rfl | rfl | rfl <;> simp at inSign <;> simp [inSign]
      · exact .inl (areDigits.2 c inDigits)

theorem Base.isDigit_ne {c : Char} (isDigit : Base.sixteen.IsDigit c) : c ≠ '+' ∧ c ≠ '-' := by
  constructor <;> rintro rfl <;> revert isDigit <;> decide

/-- The mark of a prefix tells its base. -/
theorem Base.eq_of_mark {base other : Base} {mark : Char} (isMark : mark ∈ base.marks)
    (isMark' : mark ∈ other.marks)
    : base = other := by
  revert isMark isMark'
  cases base <;> cases other <;> simp only [marks, List.mem_cons, List.not_mem_nil, or_false] <;>
    rintro (rfl | rfl) <;> decide

/-- The mark of a prefix is no part of a decimal. -/
theorem Base.not_decimal_of_mark {base : Base} {mark : Char} (isMark : mark ∈ base.marks)
    : ¬ (Json.IsDigit mark ∨ mark ∈ ['.', 'e', 'E', '+', '-']) := by
  revert isMark
  unfold Json.IsDigit
  cases base <;> simp only [marks, List.mem_cons, List.not_mem_nil, or_false] <;>
    rintro (rfl | rfl) <;> decide

/-- A numeral that begins with a zero has no sign. -/
theorem sign_eq_nil {sign chars rest : List Char} (isSign : IsSign sign)
    (same : '0' :: rest = sign ++ chars)
    : sign = [] := by
  rcases isSign.eq with rfl | rfl | rfl
  · rfl
  · simp at same
  · simp at same

/-- Nothing that begins with the prefix of a base is a decimal. -/
theorem prefixed_ne_decimal {base : Base} {mark : Char} (isMark : mark ∈ base.marks)
    (rest : List Char) {sign unsigned : List Char} (isSign : IsSign sign)
    (isUnsigned : IsUnsigned unsigned)
    : '0' :: mark :: rest ≠ sign ++ unsigned := by
  intro same
  obtain rfl := sign_eq_nil isSign same
  rw [List.nil_append] at same
  obtain rfl := same
  exact Base.not_decimal_of_mark isMark (mem_unsigned isUnsigned mark (by simp))

/-- A numeral that begins with the prefix of a base has digits of that base after it. -/
theorem isNumeral_prefixed_iff {base : Base} {mark : Char} (isMark : mark ∈ base.marks)
    (rest : List Char)
    : IsNumeral ('0' :: mark :: rest) ↔ base.IsDigits rest := by
  refine ⟨?_, .prefixed isMark⟩
  generalize same : '0' :: mark :: rest = chars
  intro isNumeral
  cases isNumeral with
  | empty => cases same
  | decimal isSign isUnsigned =>
      exact absurd same (prefixed_ne_decimal isMark rest isSign isUnsigned)
  | infinity isSign =>
      obtain rfl := sign_eq_nil isSign same
      simp at same
  | @prefixed other mark' digits isMark' areDigits =>
      obtain ⟨rfl, rfl⟩ : mark = mark' ∧ rest = digits := by simpa using same
      exact Base.eq_of_mark isMark isMark' ▸ areDigits

theorem number?_hex {mark : Char} (isMark : mark ∈ Base.sixteen.marks) (rest : List Char)
    : number? ('0' :: mark :: rest) = hexadecimal? rest := by
  simp only [Base.marks, List.mem_cons, List.not_mem_nil, or_false] at isMark
  rcases isMark with rfl | rfl <;> rfl

theorem number?_unprefixed {chars : List Char} (some : chars ≠ [])
    (unprefixed : ∀ mark ∈ Base.sixteen.marks, ∀ rest, chars ≠ '0' :: mark :: rest)
    : number? chars
      = if chars = "Infinity".toList ∨ chars = "+Infinity".toList then
          Option.some (Binary64.infinity false)
        else if chars = "-Infinity".toList then
          Option.some (Binary64.infinity true)
        else
          decimal? chars := by
  unfold number?
  split
  · exact absurd rfl some
  next rest => exact absurd rfl (unprefixed 'x' (by decide) rest)
  next rest => exact absurd rfl (unprefixed 'X' (by decide) rest)
  · rfl

-----------------------------------------------------------------------------------------
-- Numbers
-----------------------------------------------------------------------------------------

/-- After its prefix a regular hexadecimal numeral is read. -/
theorem isSome_number?_hex {mark : Char} (isMark : mark ∈ Base.sixteen.marks) {rest : List Char}
    (regular : ¬ IsIrregular ('0' :: mark :: rest))
    : (number? ('0' :: mark :: rest)).isSome = true ↔ IsNumeral ('0' :: mark :: rest) := by
  rw [number?_hex isMark, isNumeral_prefixed_iff isMark]
  -- A sign is followed by no regular numeral: with one, the digits do not fit the word.
  cases split : signed rest with
  | mk negative digits =>
      rw [isSome_hexadecimal? split]
      unfold signed at split
      split at split
      · obtain ⟨rfl, rfl⟩ := Prod.mk.inj split
        refine iff_of_false (fun ⟨areDigits, fits⟩ => regular ?_) fun areDigits =>
          (Base.isDigit_ne (areDigits.2 '-' (by simp))).2 rfl
        exact .negative isMark areDigits (by omega)
      · obtain ⟨rfl, rfl⟩ := Prod.mk.inj split
        refine iff_of_false (fun ⟨areDigits, fits⟩ => regular ?_) fun areDigits =>
          (Base.isDigit_ne (areDigits.2 '+' (by simp))).1 rfl
        exact .positive isMark areDigits (by simpa using fits)
      · obtain ⟨rfl, rfl⟩ := Prod.mk.inj split
        refine and_iff_left_of_imp fun areDigits => .inl ?_
        by_contra large
        exact regular (.long isMark areDigits (Nat.le_of_not_lt large))

/-- A regular text is read as a number when it is a numeral. -/
theorem isSome_number? {chars : List Char} (regular : ¬ IsIrregular chars)
    : (number? chars).isSome = true ↔ IsNumeral chars := by
  by_cases prefixed : ∃ mark ∈ Base.sixteen.marks, ∃ rest, chars = '0' :: mark :: rest
  · obtain ⟨mark, isMark, rest, rfl⟩ := prefixed
    exact isSome_number?_hex isMark regular
  by_cases some : chars = []
  · subst some
    exact iff_of_true rfl .empty
  have unprefixed : ∀ mark ∈ Base.sixteen.marks, ∀ rest, chars ≠ '0' :: mark :: rest :=
    fun mark isMark rest isPrefixed => prefixed ⟨mark, isMark, rest, isPrefixed⟩
  rw [number?_unprefixed some unprefixed]
  constructor
  · intro isSome
    split at isSome
    next isInfinity =>
        rcases isInfinity with rfl | rfl
        · exact .infinity (by simp [IsSign] : IsSign [])
        · exact .infinity (by simp [IsSign] : IsSign ['+'])
    split at isSome
    next isInfinity =>
        subst isInfinity
        exact .infinity (by simp [IsSign] : IsSign ['-'])
    next =>
        obtain ⟨sign, unsigned, rfl, isSign, isUnsigned⟩ := (isSome_decimal? chars).mp isSome
        exact .decimal isSign isUnsigned
  · intro isNumeral
    split
    · rfl
    split
    · rfl
    next noPositive noNegative =>
        cases isNumeral with
        | empty => exact absurd rfl some
        | decimal isSign isUnsigned =>
            exact (isSome_decimal? _).mpr ⟨_, _, rfl, isSign, isUnsigned⟩
        | infinity isSign =>
            rcases isSign.eq with rfl | rfl | rfl
            · exact absurd (.inl rfl) noPositive
            · exact absurd (.inr rfl) noPositive
            · exact absurd rfl noNegative
        | @prefixed base mark digits isMark areDigits =>
            by_cases sixteen : base = .sixteen
            · subst sixteen
              exact absurd rfl (unprefixed mark isMark digits)
            · exact absurd (.other sixteen isMark areDigits) regular

/-- A prefix of another base than sixteen is not read. -/
theorem number?_other {base : Base} {mark : Char} (isOther : base ≠ .sixteen)
    (isMark : mark ∈ base.marks) (rest : List Char)
    : number? ('0' :: mark :: rest) = none := by
  have unprefixed (hex : Char) (isHex : hex ∈ Base.sixteen.marks) (digits : List Char)
      : '0' :: mark :: rest ≠ '0' :: hex :: digits := by
    intro same
    obtain ⟨rfl, -⟩ : mark = hex ∧ rest = digits := by simpa using same
    exact isOther (Base.eq_of_mark isMark isHex)
  have notDecimal : decimal? ('0' :: mark :: rest) = none := by
    rw [← Option.not_isSome_iff_eq_none, isSome_decimal?]
    rintro ⟨sign, unsigned, same, isSign, isUnsigned⟩
    exact prefixed_ne_decimal isMark rest isSign isUnsigned same
  rw [number?_unprefixed (by simp) unprefixed, if_neg (by simp), if_neg (by simp), notDecimal]

/-- With a sign a text is read that is no numeral. The other irregular texts are numerals that are
not read.
-/
theorem number?_irregular {chars : List Char} (irregular : IsIrregular chars)
    : ¬ ((number? chars).isSome = true ↔ IsNumeral chars) := by
  cases irregular with
  | positive isMark areDigits fits =>
      rw [number?_hex isMark, isSome_hexadecimal? rfl, isNumeral_prefixed_iff isMark]
      exact fun same => (Base.isDigit_ne ((same.mp ⟨areDigits, .inl fits⟩).2 '+' (by simp))).1 rfl
  | negative isMark areDigits fits =>
      rw [number?_hex isMark, isSome_hexadecimal? rfl, isNumeral_prefixed_iff isMark]
      have read := Nat.lt_or_eq_of_le fits
      exact fun same => (Base.isDigit_ne
        ((same.mp ⟨areDigits, read.imp_right fun least => ⟨rfl, least⟩⟩).2 '-' (by simp))).2 rfl
  | @long mark digits isMark areDigits large =>
      have split : signed digits = (false, digits) := signed_unsigned fun c isHead =>
        Base.isDigit_ne (areDigits.2 c (List.mem_of_mem_head? isHead))
      rw [number?_hex isMark, isSome_hexadecimal? split, isNumeral_prefixed_iff isMark]
      intro same
      have fits := (same.mpr areDigits).2
      simp only [Bool.false_eq_true, false_and, or_false] at fits
      omega
  | other isOther isMark areDigits =>
      rw [number?_other isOther isMark]
      exact fun same => by simpa using same.mpr (.prefixed isMark areDigits)

/-- The irregular texts are exactly the ones for which reading and the grammar differ. -/
theorem isIrregular_iff (chars : List Char)
    : IsIrregular chars ↔ ¬ ((number? chars).isSome = true ↔ IsNumeral chars) :=
  ⟨number?_irregular, fun differ => by_contra fun regular => differ (isSome_number? regular)⟩

theorem isNaN_hexadecimal? {chars : List Char} {x : Binary64} (isRead : hexadecimal? chars = some x)
    : x.isNaN = false := by
  simp only [hexadecimal?, Binary64.ofInt] at isRead
  split at isRead
  · cases isRead
  · cases isRead
  next =>
      split at isRead
      · exact Option.some.inj isRead ▸ Binary64.isNaN_ofRatio ..
      split at isRead
      · exact Option.some.inj isRead ▸ Binary64.isNaN_ofRatio ..
      · cases isRead

/-- What is read is a number. -/
theorem isNaN_number? {chars : List Char} {x : Binary64} (isRead : number? chars = some x)
    : x.isNaN = false := by
  unfold number? at isRead
  split at isRead
  · exact Option.some.inj isRead ▸ Binary64.isNaN_ofMagnitude false (Nat.zero_le _)
  · exact isNaN_hexadecimal? isRead
  · exact isNaN_hexadecimal? isRead
  split at isRead
  · exact Option.some.inj isRead ▸ Binary64.isNaN_ofMagnitude false (Nat.le_refl _)
  split at isRead
  · exact Option.some.inj isRead ▸ Binary64.isNaN_ofMagnitude true (Nat.le_refl _)
  · obtain ⟨⟨digits, exponent⟩, -, rfl⟩ := Option.map_eq_some_iff.mp isRead
    exact Binary64.isNaN_ofDecimal ..

/-- The number of a text is a NaN when the text is not read. -/
theorem isNaN_ofText (text : String)
    : (Binary64.ofText text).isNaN = true ↔ number? (Text.trimmed text.toList) = none := by
  rw [Binary64.ofText]
  cases isRead : number? (Text.trimmed text.toList) with
  | none => simpa using (by decide : Binary64.nan.isNaN = true)
  | some x => simp [isNaN_number? isRead]

/-- Whether a text is left out of an attribute that takes numbers. -/
theorem isDropped_text {name : String} {line : Html.Property} (text : String)
    (isNumeric : line.kind = .numeric ∨ line.kind = .positiveNumeric)
    : WrittenAttribute.isDropped name (.string text) (some line) = true
      ↔ (Binary64.ofText text).isNaN = true
        ∨ line.kind = .positiveNumeric ∧ (Binary64.ofText text).isBelowOne = true := by
  rcases isNumeric with isKind | isKind <;>
    simp [WrittenAttribute.isDropped, isKind, Value.toNumber]

/-- An attribute that takes numbers is written when its value is not left out. -/
theorem ofProperty?_number {name : String} {line : Html.Property} (value : Value)
    (listed : Html.property? name = some line)
    (isNumeric : line.kind = .numeric ∨ line.kind = .positiveNumeric)
    : WrittenAttribute.ofProperty? name value false = none
      ↔ WrittenAttribute.isDropped name value (some line) = true := by
  have accepted : Html.isIgnored name (some line) = false := by
    rcases isNumeric with isKind | isKind <;> simp [Html.isIgnored, isKind]
  simp only [WrittenAttribute.ofProperty?, WrittenAttribute.standard?, listed, accepted,
    Bool.false_or, Bool.false_eq_true, if_false]
  cases WrittenAttribute.isDropped name value (some line) with
  | true => simp
  | false => by_cases emptied : WrittenAttribute.isEmptied line.kind value <;> simp [emptied]

/-- A regular text is a NaN exactly when it is no numeral. A property that takes numbers leaves out
exactly these texts, and one that takes numbers from one on leaves out the smaller numbers too.
-/
theorem ofText_numeral (text : String) (regular : ¬ IsIrregular (Text.trimmed text.toList))
    : ((Binary64.ofText text).isNaN = true ↔ ¬ IsNumeral (Text.trimmed text.toList))
      ∧ ∀ (name : String) (line : Html.Property), Html.property? name = some line →
          (line.kind = .numeric →
            (WrittenAttribute.ofProperty? name (.string text) false = none
              ↔ ¬ IsNumeral (Text.trimmed text.toList)))
          ∧ (line.kind = .positiveNumeric →
            (WrittenAttribute.ofProperty? name (.string text) false = none
              ↔ ¬ IsNumeral (Text.trimmed text.toList)
                ∨ (Binary64.ofText text).isBelowOne = true)) := by
  have isNumber
      : (Binary64.ofText text).isNaN = true ↔ ¬ IsNumeral (Text.trimmed text.toList) := by
    rw [isNaN_ofText, ← Option.not_isSome_iff_eq_none, isSome_number? regular]
  refine ⟨isNumber, fun name line listed => ⟨fun isKind => ?_, fun isKind => ?_⟩⟩
  · rw [ofProperty?_number _ listed (.inl isKind), isDropped_text text (.inl isKind), isNumber,
      isKind]
    simp
  · rw [ofProperty?_number _ listed (.inr isKind), isDropped_text text (.inr isKind), isNumber,
      isKind]
    simp

/-- Nineteen is a number of rows and of columns. -/
theorem ofText_numeral_rows
    : let text := " 0x13\n"
      (Binary64.ofText text).isNaN = false
        ∧ WrittenAttribute.ofProperty? "rowSpan" (.string text) false ≠ none
        ∧ WrittenAttribute.ofProperty? "cols" (.string text) false ≠ none := by
  intro text
  have chars : Text.trimmed text.toList = ['0', 'x', '1', '3'] := by decide +kernel
  have isNumeral : IsNumeral (Text.trimmed text.toList) :=
    chars ▸ .prefixed (by decide : 'x' ∈ Base.sixteen.marks) (by decide)
  have regular : ¬ IsIrregular (Text.trimmed text.toList) := by
    rw [isIrregular_iff, not_not]
    exact iff_of_true (by decide +kernel) isNumeral
  obtain ⟨isNumber, written⟩ := ofText_numeral text regular
  have rows : Html.property? "rowSpan" = some ⟨"rowSpan", "rowspan", .numeric⟩ := by
    decide +kernel
  have columns : Html.property? "cols" = some ⟨"cols", "cols", .positiveNumeric⟩ := by
    decide +kernel
  have large : (Binary64.ofText text).isBelowOne = false := by decide +kernel
  refine ⟨by simpa [isNumeral] using isNumber, ?_, ?_⟩
  · rw [Ne, (written _ _ rows).1 rfl]
    exact not_not.mpr isNumeral
  · rw [Ne, (written _ _ columns).2 rfl, large]
    simpa using isNumeral

/-- Zero is a number, but no number of columns. After a prefix a sign is accepted, sixty-four bits
are too many, and the other bases are unknown.
-/
theorem zero_columns_and_prefixes
    : (IsNumeral (Text.trimmed "0".toList) ∧ (Binary64.ofText "0").isNaN = false
        ∧ Html.property? "cols" = some ⟨"cols", "cols", .positiveNumeric⟩
        ∧ WrittenAttribute.ofProperty? "cols" (.string "0") false = none)
      ∧ (¬ IsNumeral (Text.trimmed "0x-5".toList) ∧ (Binary64.ofText "0x-5").isNaN = false)
      ∧ ∀ text ∈ ["0x8000000000000000", "0o17", "0b1"],
          IsNumeral (Text.trimmed text.toList) ∧ (Binary64.ofText text).isNaN = true := by
  have zero : IsNumeral ['0'] :=
    .decimal (by simp [IsSign] : IsSign [])
      ⟨['0'], [], rfl, .whole ⟨by simp, by simp [IsDigit]⟩, .none⟩
  have signedDigit : ¬ IsNumeral ['0', 'x', '-', '5'] := by
    rw [isNumeral_prefixed_iff (by decide : 'x' ∈ Base.sixteen.marks)]
    decide
  have long : IsNumeral ('0' :: 'x' :: '8' :: List.replicate 15 '0') :=
    .prefixed (by decide : 'x' ∈ Base.sixteen.marks) (by decide)
  have eight : IsNumeral ['0', 'o', '1', '7'] :=
    .prefixed (by decide : 'o' ∈ Base.eight.marks) (by decide)
  have two : IsNumeral ['0', 'b', '1'] :=
    .prefixed (by decide : 'b' ∈ Base.two.marks) (by decide)
  refine ⟨⟨?_, by decide +kernel⟩, ⟨?_, by decide +kernel⟩, ?_⟩
  · rwa [(by decide +kernel : Text.trimmed "0".toList = ['0'])]
  · rwa [(by decide +kernel : Text.trimmed "0x-5".toList = ['0', 'x', '-', '5'])]
  · simp only [List.forall_mem_cons, List.not_mem_nil, false_implies, implies_true, and_true]
    exact ⟨⟨long, by decide +kernel⟩, ⟨eight, by decide +kernel⟩, ⟨two, by decide +kernel⟩⟩

end Numeral

end TaggedMarkup
