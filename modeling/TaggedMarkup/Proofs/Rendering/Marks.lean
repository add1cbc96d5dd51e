import TaggedMarkup.Render.State

/-! The marks of normal markup are separators between texts and the marker of the first
element. What static markup gets as marks is defined here, and so is which pieces can follow
each other. Both are known piece by piece.
-/

namespace TaggedMarkup

namespace Piece

def isText : Piece → Bool
  | .text _ => true
  | _ => false

/-- Whether the piece ends an open tag. -/
def isEnd : Piece → Bool
  | .openEnd | .selfClose => true
  | _ => false

/-- Whether an open tag is being written after a piece, from whether one is before it. Only
attributes stand in an open tag, and marks stand nowhere.
-/
def follow : Bool → Piece → Option Bool
  | false, .openTag _ | true, .attribute .. => some true
  | true, .openEnd | true, .selfClose => some false
  | false, .closeTag _ | false, .text _ | false, .raw _ => some false
  | _, _ => none

/-- Pieces of whole tags without marks: every open tag is followed by its attributes and its
end, and nothing of these stands elsewhere.
-/
def Whole (pieces : List Piece) : Prop :=
  pieces.foldlM follow false = some false

/-- The pieces with a separator before every text that comes right after a text. `afterText`
says that a text stands before them.
-/
def separated (afterText : Bool) : List Piece → List Piece
  | [] => []
  | piece :: rest =>
      if afterText && piece.isText then
        .separator :: piece :: separated true rest
      else
        piece :: separated piece.isText rest

/-- The pieces with the marker right before the first end of an open tag. -/
def markedEnd : List Piece → List Piece
  | [] => []
  | piece :: rest =>
      if piece.isEnd then .rootMarker :: piece :: rest else piece :: markedEnd rest

/-- The pieces with the marker right before the end of the first open tag. -/
def marked : List Piece → List Piece
  | [] => []
  | .openTag tag :: rest => .openTag tag :: markedEnd rest
  | piece :: rest => piece :: marked rest

/-- The pieces of normal markup that those of static markup become. -/
def dressed (rootMarker : Bool) (pieces : List Piece) : List Piece :=
  if rootMarker then marked (separated false pieces) else separated false pieces

def endInText (afterText : Bool) (pieces : List Piece) : Bool :=
  (pieces.getLast?.map isText).getD afterText

variable {pieces : List Piece} {piece : Piece} {afterText rootMarker : Bool}

-----------------------------------------------------------------------------------------
-- One more piece
-----------------------------------------------------------------------------------------

/-- Pieces that end in one piece end in text when it is text. -/
theorem endInText_append (pieces : List Piece) (piece : Piece)
    : endInText afterText (pieces ++ [piece]) = piece.isText := by
  simp [endInText]

/-- The text at the end does not depend on what is before the pieces if there are some. -/
theorem endInText_cons (piece : Piece) (rest : List Piece)
    : endInText afterText (piece :: rest) = endInText piece.isText rest := by
  cases rest with
  | nil => rfl
  | cons next rest =>
      simp only [endInText, List.getLast?_cons, Option.map_some, Option.getD_some]

/-- One more piece gets a separator before it when it is text after text. -/
theorem separated_append (pieces : List Piece) (piece : Piece)
    : separated afterText (pieces ++ [piece])
      = separated afterText pieces
        ++ if endInText afterText pieces && piece.isText then [.separator, piece] else [piece] := by
  induction pieces generalizing afterText with
  | nil => cases afterText <;> cases isText : piece.isText <;> simp [separated, endInText, isText]
  | cons first rest ih =>
      rw [endInText_cons]
      simp only [List.cons_append, separated]
      split
      next both =>
          obtain ⟨-, isText⟩ := Bool.and_eq_true_iff.mp both
          simp only [ih, isText, List.cons_append]
      next => simp only [ih, List.cons_append]

theorem any_separated (pieces : List Piece)
    : (separated afterText pieces).any isEnd = pieces.any isEnd := by
  induction pieces generalizing afterText with
  | nil => rfl
  | cons first rest ih =>
      simp only [separated]
      split
      next both =>
          obtain ⟨-, isText⟩ := Bool.and_eq_true_iff.mp both
          simp only [List.any_cons, ih]
          rfl
      next => simp only [List.any_cons, ih]

theorem endInText_separated (pieces : List Piece)
    : endInText afterText (separated afterText pieces) = endInText afterText pieces := by
  rcases List.eq_nil_or_concat pieces with rfl | ⟨pieces, piece, rfl⟩
  · rfl
  · rw [List.concat_eq_append, separated_append, endInText_append]
    split
    next => rw [List.append_cons, endInText_append]
    next => rw [endInText_append]

/-- One more piece gets the marker before it when it is the first end. -/
theorem markedEnd_append (pieces : List Piece) (piece : Piece)
    : markedEnd (pieces ++ [piece])
      = markedEnd pieces
        ++ if piece.isEnd && !pieces.any isEnd then [.rootMarker, piece] else [piece] := by
  induction pieces with
  | nil => cases isEnd : piece.isEnd <;> simp [markedEnd, isEnd]
  | cons first rest ih =>
      simp only [List.cons_append, markedEnd]
      split
      next isEnd => simp [isEnd]
      next notEnd => simp [ih, notEnd]

theorem endInText_markedEnd (pieces : List Piece)
    : endInText afterText (markedEnd pieces) = endInText afterText pieces := by
  rcases List.eq_nil_or_concat pieces with rfl | ⟨pieces, piece, rfl⟩
  · rfl
  · rw [List.concat_eq_append, markedEnd_append, endInText_append]
    split
    next => rw [List.append_cons, endInText_append]
    next => rw [endInText_append]

/-- The first end of an open tag is that of the first open tag. -/
theorem marked_separated {last : Bool} (whole : pieces.foldlM follow false = some last)
    : marked (separated afterText pieces) = markedEnd (separated afterText pieces) := by
  induction pieces generalizing afterText with
  | nil => rfl
  | cons first rest ih =>
      rw [List.foldlM_cons] at whole
      cases first with
      | openTag tag => simp [separated, isText, marked, markedEnd, isEnd]
      | text escaped =>
          have inner := @ih true whole
          cases afterText <;> simp [separated, isText, marked, markedEnd, isEnd, inner]
      | closeTag tag | raw markup =>
          have inner := @ih false whole
          simp [separated, isText, marked, markedEnd, isEnd, inner]
      | «attribute» | rootMarker | openEnd | selfClose | separator => cases whole

-----------------------------------------------------------------------------------------
-- Marks so far
-----------------------------------------------------------------------------------------

/-- The pieces with the marks that they have while more is to come. -/
def worn (rootMarker : Bool) (pieces : List Piece) : List Piece :=
  if rootMarker then markedEnd (separated false pieces) else separated false pieces

theorem dressed_eq_worn (whole : Whole pieces)
    : dressed rootMarker pieces = worn rootMarker pieces := by
  simp only [dressed, worn, marked_separated whole]

theorem endInText_worn (rootMarker : Bool) (pieces : List Piece)
    : endInText false (worn rootMarker pieces) = endInText false pieces := by
  cases rootMarker with
  | true => exact (endInText_markedEnd _).trans (endInText_separated _)
  | false => exact endInText_separated _

/-- A piece that is no text and no end gets no marks. -/
theorem worn_append_plain (notText : piece.isText = false) (notEnd : piece.isEnd = false)
    : worn rootMarker (pieces ++ [piece]) = worn rootMarker pieces ++ [piece] := by
  cases rootMarker <;> simp [worn, separated_append, markedEnd_append, notText, notEnd]

/-- A text gets a separator when text stands before it. -/
theorem worn_append_text (escaped : String)
    : worn rootMarker (pieces ++ [.text escaped])
      = worn rootMarker pieces
        ++ if endInText false pieces then [.separator, .text escaped] else [.text escaped] := by
  have notEnd : isEnd (.text escaped) = false := rfl
  cases after : endInText false pieces with
  | false =>
      cases rootMarker <;> simp [worn, separated_append, markedEnd_append, after, notEnd]
  | true =>
      have apart
          : separated false (pieces ++ [.text escaped])
            = separated false pieces ++ [.separator] ++ [.text escaped] := by
        rw [separated_append, after]
        simp [isText]
      have notEnd' : isEnd .separator = false := rfl
      simp only [worn, apart, markedEnd_append, notEnd, notEnd']
      cases rootMarker <;> simp

/-- An end gets the marker when it is the first. -/
theorem worn_append_end (isLast : piece.isEnd = true)
    : worn rootMarker (pieces ++ [piece])
      = worn rootMarker pieces
        ++ if rootMarker && !pieces.any isEnd then [.rootMarker, piece] else [piece] := by
  have notText : piece.isText = false := by
    cases piece <;> first | rfl | exact nomatch isLast
  cases rootMarker <;>
    simp [worn, separated_append, markedEnd_append, any_separated, notText, isLast]

end Piece

end TaggedMarkup
