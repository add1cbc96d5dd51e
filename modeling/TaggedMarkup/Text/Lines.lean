/-! Literal text that spans several lines is condensed to one. Spaces around a line break
are indentation and disappear, lines that hold nothing else disappear with them, and one
space joins the lines that remain. Tabs count as spaces. A text without a line break keeps
all of its spaces.
-/

namespace TaggedMarkup.Text

/-- What has been seen of the current line: how many spaces wait for a further character, or
that the line began after a break and has been blank so far. -/
inductive LineState where
  | blankLine
  | spaces (count : Nat)
deriving DecidableEq, Repr

/-- Condenses the remaining characters. `started` says that some character has been kept
already, so that a later line is joined by a space. Waiting spaces are written once another
character of the same line follows, or at the end of the whole text. -/
def condensedFrom (state : LineState) (started : Bool) : List Char → List Char
  | [] =>
      match state with
      | .blankLine => []
      | .spaces count => List.replicate count ' '
  | c :: rest =>
      if c = '\n' ∨ c = '\r' then
        condensedFrom .blankLine started rest
      else if c = ' ' ∨ c = '\t' then
        match state with
        | .blankLine => condensedFrom .blankLine started rest
        | .spaces count => condensedFrom (.spaces (count + 1)) started rest
      else
        match state with
        | .blankLine =>
            if started then
              ' ' :: c :: condensedFrom (.spaces 0) true rest
            else
              c :: condensedFrom (.spaces 0) true rest
        | .spaces count =>
            List.replicate count ' ' ++ c :: condensedFrom (.spaces 0) true rest

/-- The text on one line, or nothing when no character is kept. -/
def condense? (text : String) : Option String :=
  match condensedFrom (.spaces 0) false text.toList with
  | [] => none
  | chars => some (String.ofList chars)

end TaggedMarkup.Text
