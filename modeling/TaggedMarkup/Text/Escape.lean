/-! Escaping makes a text safe inside element content and inside double-quoted attribute
values. Five characters are replaced by character references and all others are kept.
-/

namespace TaggedMarkup.Text

/-- The character reference for each of the five special characters, the character itself
otherwise. -/
def escapedChar (c : Char) : List Char :=
  match c with
  | '&' => ['&', 'a', 'm', 'p', ';']
  | '<' => ['&', 'l', 't', ';']
  | '>' => ['&', 'g', 't', ';']
  | '"' => ['&', 'q', 'u', 'o', 't', ';']
  | '\'' => ['&', '#', 'x', '2', '7', ';']
  | c => [c]

/-- Every character in its escaped form, in order. -/
def escapedChars (chars : List Char) : List Char :=
  chars.flatMap escapedChar

/-- The text with its special characters replaced. -/
def escape (text : String) : String :=
  String.ofList (escapedChars text.toList)

end TaggedMarkup.Text
