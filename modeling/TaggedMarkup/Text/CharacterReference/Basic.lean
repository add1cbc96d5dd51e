/-! A named character reference stands for one or two characters. It is written with an
ampersand before the name and a semicolon after it, and the names of the oldest references
may go without the semicolon.
-/

namespace TaggedMarkup.Text.CharacterReference

/-- A name of the standard with the code points that it stands for. `bare` says that the
semicolon may be missing. -/
structure Name where
  name : String
  codes : List Nat
  bare : Bool
deriving DecidableEq, Repr

/-- The characters that the name stands for. -/
def Name.chars (reference : Name) : List Char :=
  reference.codes.map Char.ofNat

/-- How many characters after the ampersand the reference takes, if it stands there. -/
def Name.matchLength? (reference : Name) (chars : List Char) : Option Nat :=
  let name := reference.name.toList
  if (name ++ [';']).isPrefixOf chars then
    some (name.length + 1)
  else if reference.bare && name.isPrefixOf chars then
    some name.length
  else
    none

end TaggedMarkup.Text.CharacterReference
