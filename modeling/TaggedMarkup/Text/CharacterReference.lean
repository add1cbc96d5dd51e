import TaggedMarkup.Number.Text
import TaggedMarkup.Text.CharacterReference.Capital
import TaggedMarkup.Text.CharacterReference.SmallFirst
import TaggedMarkup.Text.CharacterReference.SmallLast

/-! Decoding replaces every character reference of a text once, from left to right. The
longest name that stands after an ampersand counts, and what a reference stands for is never
read again. An ampersand that begins no reference is kept.
-/

namespace TaggedMarkup.Text.CharacterReference

/-- The names of the standard by their first letter. -/
def namesFrom (initial : Char) : List Name :=
  match initial with
  | 'A' => capitalA | 'B' => capitalB | 'C' => capitalC | 'D' => capitalD | 'E' => capitalE
  | 'F' => capitalF | 'G' => capitalG | 'H' => capitalH | 'I' => capitalI | 'J' => capitalJ
  | 'K' => capitalK | 'L' => capitalL | 'M' => capitalM | 'N' => capitalN | 'O' => capitalO
  | 'P' => capitalP | 'Q' => capitalQ | 'R' => capitalR | 'S' => capitalS | 'T' => capitalT
  | 'U' => capitalU | 'V' => capitalV | 'W' => capitalW | 'X' => capitalX | 'Y' => capitalY
  | 'Z' => capitalZ
  | 'a' => smallA | 'b' => smallB | 'c' => smallC | 'd' => smallD | 'e' => smallE
  | 'f' => smallF | 'g' => smallG | 'h' => smallH | 'i' => smallI | 'j' => smallJ
  | 'k' => smallK | 'l' => smallL | 'm' => smallM | 'n' => smallN | 'o' => smallO
  | 'p' => smallP | 'q' => smallQ | 'r' => smallR | 's' => smallS | 't' => smallT
  | 'u' => smallU | 'v' => smallV | 'w' => smallW | 'x' => smallX | 'y' => smallY
  | 'z' => smallZ
  | _ => []

/-- A reference found after an ampersand: how many characters it takes and what it stands
for. -/
structure Found where
  length : Nat
  chars : List Char
deriving DecidableEq, Repr

def Found.longer (best : Option Found) (found : Found) : Option Found :=
  match best with
  | none => some found
  | some other => if other.length < found.length then some found else some other

/-- What has been found when one more name is looked for at the front. -/
def preferred (chars : List Char) (best : Option Found) (reference : Name) : Option Found :=
  match reference.matchLength? chars with
  | some length => Found.longer best ⟨length, reference.chars⟩
  | none => best

/-- The longest name of the list that stands at the front. -/
def longest? (names : List Name) (chars : List Char) : Option Found :=
  names.foldl (preferred chars) none

/-- What the numbers from `0x80` to `0x9f` stand for: the characters that the Windows code page
has at these places. Five places are free and stand for themselves. -/
def codePage : List Nat :=
  [0x20ac, 0x81, 0x201a, 0x192, 0x201e, 0x2026, 0x2020, 0x2021, 0x2c6, 0x2030, 0x160, 0x2039,
    0x152, 0x8d, 0x17d, 0x8f, 0x90, 0x2018, 0x2019, 0x201c, 0x201d, 0x2022, 0x2013, 0x2014,
    0x2dc, 0x2122, 0x161, 0x203a, 0x153, 0x9d, 0x17e, 0x178]

/-- The character of a numeric reference. Zero, surrogates and numbers beyond the last code
point stand for the replacement character. -/
def ofCode (code : Nat) : Char :=
  if code = 0 ∨ 0x10ffff < code ∨ (0xd800 ≤ code ∧ code ≤ 0xdfff) then
    '\ufffd'
  else if 0x80 ≤ code ∧ code ≤ 0x9f then
    Char.ofNat (codePage.getD (code - 0x80) code)
  else
    Char.ofNat code

/-- A numeric reference with the digits of a base at the front. `before` counts the characters
that mark it as one, and a semicolon belongs to it when it follows. -/
def numeric? (before base : Nat) (digit? : Char → Option Nat) (chars : List Char)
    : Option Found :=
  let isDigit := fun c => (digit? c).isSome
  let digits := chars.takeWhile isDigit
  if digits = [] then
    none
  else
    let closed := if (chars.dropWhile isDigit).head? = some ';' then 1 else 0
    some
      {
        length := before + digits.length + closed
        chars := [ofCode (Numeral.digitsValue base (digits.filterMap digit?))]
      }

/-- The reference at the front of the text after an ampersand. -/
def reference? (chars : List Char) : Option Found :=
  match chars with
  | '#' :: 'x' :: rest => numeric? 2 16 Numeral.hexDigit? rest
  | '#' :: 'X' :: rest => numeric? 2 16 Numeral.hexDigit? rest
  | '#' :: rest => numeric? 1 10 Numeral.digit? rest
  | initial :: _ => longest? (namesFrom initial) chars
  | [] => none

/-- Decodes after passing over characters that belong to a decoded reference. -/
def decodedFrom (passed : Nat) : List Char → List Char
  | [] => []
  | c :: rest =>
      match passed with
      | more + 1 => decodedFrom more rest
      | 0 =>
          if c = '&' then
            match reference? rest with
            | some found => found.chars ++ decodedFrom found.length rest
            | none => c :: decodedFrom 0 rest
          else
            c :: decodedFrom 0 rest

end CharacterReference

/-- The text with its character references decoded. -/
def decode (text : String) : String :=
  String.ofList (CharacterReference.decodedFrom 0 text.toList)

end TaggedMarkup.Text
