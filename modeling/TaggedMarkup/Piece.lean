/-! Markup is written in pieces. A piece is a whole tag part, attribute or text, so that what
was written can be told apart from its characters.
-/

namespace TaggedMarkup

inductive Piece where
  /-- The beginning of an open tag, with its name. -/
  | openTag (tag : String)
  /-- An attribute with its escaped text. -/
  | attribute (name body : String)
  /-- The mark of the first element of a render. -/
  | rootMarker
  /-- The end of an open tag. -/
  | openEnd
  /-- The end of a tag that has no content. -/
  | selfClose
  | closeTag (tag : String)
  | text (escaped : String)
  | separator
  /-- Markup that a value gives as it is. -/
  | raw (markup : String)
deriving DecidableEq, Repr

namespace Piece

def render : Piece → String
  | .openTag tag => "<" ++ tag
  | .attribute name body => " " ++ name ++ "=\"" ++ body ++ "\""
  | .rootMarker => " data-reactroot=\"\""
  | .openEnd => ">"
  | .selfClose => "/>"
  | .closeTag tag => "</" ++ tag ++ ">"
  | .text escaped => escaped
  | .separator => "<!-- -->"
  | .raw markup => markup

def renderAll (pieces : List Piece) : String :=
  pieces.foldl (fun written piece => written ++ piece.render) ""

end Piece

end TaggedMarkup
