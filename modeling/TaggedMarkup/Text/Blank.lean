/-! Blank characters are those with the Unicode property `White_Space`.
Trimming removes them from both ends of a text and keeps everything between.
-/

namespace TaggedMarkup.Text

/-- Holds of the twenty-five characters with the property `White_Space`. -/
def isBlank (c : Char) : Bool :=
  ('\t' ≤ c && c ≤ '\r') || c == ' ' || c == '\u0085' || c == '\u00a0' || c == '\u1680'
    || ('\u2000' ≤ c && c ≤ '\u200a') || c == '\u2028' || c == '\u2029' || c == '\u202f'
    || c == '\u205f' || c == '\u3000'

/-- The characters without the blank ones at either end. -/
def trimmed (chars : List Char) : List Char :=
  ((chars.dropWhile isBlank).reverse.dropWhile isBlank).reverse

/-- The text without the blank characters at either end. -/
def trim (text : String) : String :=
  String.ofList (trimmed text.toList)

/-- Holds when nothing but blank characters occurs. -/
def allBlank (text : String) : Bool :=
  text.toList.all isBlank

end TaggedMarkup.Text
