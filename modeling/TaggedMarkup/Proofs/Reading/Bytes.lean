import TaggedMarkup.Token.Scanner

/-! The fragments of a template can be read byte by byte. The registers hold where the section
that is being read begins, and a text is cut out of the fragment when its end has been found.
A cut is possible only between two characters, so a reader of bytes has to get every offset
right, and nothing comes of it if it does not. Locations have 32 bits for each of their numbers.
-/

namespace TaggedMarkup.Bytes

open Scanner (Scanned fragmentName)

-----------------------------------------------------------------------------------------
-- Cuts
-----------------------------------------------------------------------------------------

/-- The UTF-8 form of a text. -/
def bytesOf (text : String) : List UInt8 :=
  text.toList.flatMap String.utf8EncodeChar

/-- The characters before a byte offset and those from it on. Nothing if the offset is behind the
end or inside a character.
-/
def cut? : List Char → Nat → Option (List Char × List Char)
  | chars, 0 => some ([], chars)
  | [], _ + 1 => none
  | c :: rest, offset + 1 =>
      if c.utf8Size ≤ offset + 1 then
        (cut? rest (offset + 1 - c.utf8Size)).map fun (before, after) => (c :: before, after)
      else
        none

/-- A place in a fragment. -/
structure Cursor where
  input : String
  fragment : Nat
  index : Nat

namespace Cursor

/-- The location of an offset in the fragment. -/
def location (cursor : Cursor) (offset : Nat) : Location :=
  ⟨cursor.fragment % UInt32.size, offset % UInt32.size⟩

def here (cursor : Cursor) : Location :=
  cursor.location cursor.index

/-- The characters from the cursor on. -/
def rest? (cursor : Cursor) : Option (List Char) :=
  (cut? cursor.input.toList cursor.index).map Prod.snd

/-- The text from an offset to the cursor. -/
def since? (cursor : Cursor) (start : Nat) : Option String := do
  let (before, _) ← cut? cursor.input.toList cursor.index
  let (_, piece) ← cut? before start
  return String.ofList piece

end Cursor

-----------------------------------------------------------------------------------------
-- Registers
-----------------------------------------------------------------------------------------

inductive State where
  | text
  | tagStart
  | tagName
  | selfClosing
  | closingName
  | closingEnd
  | beforeAttribute
  | attributeName
  | afterAttributeName
  | beforeValue
  | quotedValue (quote : UInt8)
  | unquotedValue
  | afterValue
  | spread
  | comment
deriving DecidableEq, Repr

structure Registers where
  state : State := .text
  /-- Where the section that is being read begins. -/
  sectionStart : Nat := 0
  /-- Where the tag that is being read begins. -/
  tagStart : Location := ⟨0, 0⟩
  /-- The name of an attribute whose value may follow. -/
  pending : Option (String × Location) := none
  closingName : String := ""
  dots : Nat := 0
  spreadStart : Location := ⟨0, 0⟩

/-- What one byte leads to: some tokens, the registers, and how many bytes behind it are passed
over.
-/
abbrev Outcome := Except Error (List Token × Registers × Nat)

/-- Tokens and registers, with no further byte passed over. -/
def pass (tokens : List Token) (registers : Registers) : Option Outcome :=
  some (.ok (tokens, registers, 0))

namespace Cursor

/-- The failure for the character at the cursor. -/
def unexpected? (cursor : Cursor) (place : CharacterPlace) : Option Outcome :=
  cursor.rest?.map fun rest =>
    .error (.unexpectedCharacter (rest.headD '\ufffd') place cursor.here)

/-- The text section up to the cursor, unless it is empty. -/
def text? (cursor : Cursor) (registers : Registers) : Option (List Token) :=
  if registers.sectionStart < cursor.index then
    (cursor.since? registers.sectionStart).map fun text =>
      [.text text (cursor.location registers.sectionStart)]
  else
    some []

/-- The end of an open tag, with the tokens before it. -/
def endTag (cursor : Cursor) (tokens : List Token) (selfClosing : Bool) (registers : Registers)
    : Option Outcome :=
  pass (tokens ++ [.openEnd selfClosing])
    { registers with state := .text, sectionStart := cursor.index + 1 }

/-- The attribute that is waiting for its value. -/
def awaited (cursor : Cursor) (registers : Registers) : String × Location :=
  registers.pending.getD ("", cursor.location registers.sectionStart)

/-- The attribute that was waiting for its value, with the section as its value. -/
def valued? (cursor : Cursor) (registers : Registers) : Option Token := do
  let (name, location) := cursor.awaited registers
  let value ← cursor.since? registers.sectionStart
  return .attribute name (.literal value) location

/-- Whether a slash at the cursor closes a tag, because `>` follows. -/
def closesItself? (cursor : Cursor) (byte : UInt8) : Option Bool :=
  if byte = '/'.toUInt8 then
    cursor.rest?.map fun rest => (bytesOf (String.ofList rest))[1]? == some '>'.toUInt8
  else
    some false

end Cursor

/-- The attribute that was waiting for its value and does not get one. -/
def Registers.bare (registers : Registers) : List Token :=
  registers.pending.toList.map fun (name, location) => .attribute name .bare location

-----------------------------------------------------------------------------------------
-- Steps
-----------------------------------------------------------------------------------------

def isSpace (byte : UInt8) : Bool :=
  byte == ' '.toUInt8 || byte == '\n'.toUInt8 || byte == '\t'.toUInt8 || byte == '\x0c'.toUInt8
    || byte == '\r'.toUInt8

def isLetter (byte : UInt8) : Bool :=
  ('A'.toUInt8 ≤ byte && byte ≤ 'Z'.toUInt8) || ('a'.toUInt8 ≤ byte && byte ≤ 'z'.toUInt8)

/-- A byte where an attribute may begin, with the tokens before it. -/
def stepBeforeAttribute? (cursor : Cursor) (tokens : List Token) (registers : Registers)
    (byte : UInt8)
    : Option Outcome :=
  let registers := { registers with state := .beforeAttribute }
  if isSpace byte then
    pass tokens registers
  else if byte = '>'.toUInt8 then
    cursor.endTag tokens false registers
  else if byte = '/'.toUInt8 then
    pass tokens { registers with state := .selfClosing }
  else if byte = '='.toUInt8 then
    some (.error (.missingAttributeName cursor.here))
  else if byte = '.'.toUInt8 then
    pass tokens { registers with state := .spread, dots := 1, spreadStart := cursor.here }
  else if byte = '"'.toUInt8 ∨ byte = '\''.toUInt8 ∨ byte = '<'.toUInt8 then
    cursor.unexpected? .beforeAttributeName
  else
    pass tokens { registers with state := .attributeName, sectionStart := cursor.index }

/-- Reads the byte at the cursor. -/
def step? (cursor : Cursor) (registers : Registers) (byte : UInt8) : Option Outcome :=
  match registers.state with
  | .text =>
      if byte = '<'.toUInt8 then
        (cursor.text? registers).bind fun tokens =>
          pass tokens
            { registers with
              state := .tagStart, tagStart := cursor.here, sectionStart := cursor.index }
      else
        pass [] registers
  | .tagStart =>
      if byte = '/'.toUInt8 then
        pass [] { registers with state := .closingName, sectionStart := cursor.index + 1 }
      else if byte = '>'.toUInt8 then
        cursor.endTag [.openTag fragmentName registers.tagStart] false registers
      else if byte = '!'.toUInt8 then
        cursor.rest?.bind fun rest =>
          if ['!', '-', '-'].isPrefixOf rest then
            some (.ok ([], { registers with state := .comment }, 2))
          else
            cursor.unexpected? .afterExclamation
      else if isLetter byte then
        pass [] { registers with state := .tagName, sectionStart := cursor.index }
      else
        cursor.unexpected? .afterLess
  | .tagName =>
      if isSpace byte ∨ byte = '/'.toUInt8 ∨ byte = '>'.toUInt8 then
        (cursor.since? registers.sectionStart).bind fun name =>
          stepBeforeAttribute? cursor [.openTag name registers.tagStart] registers byte
      else
        pass [] registers
  | .selfClosing =>
      if byte = '>'.toUInt8 then
        cursor.endTag [] true registers
      else
        cursor.unexpected? .afterSlash
  | .closingName =>
      if byte = '>'.toUInt8 then
        (cursor.since? registers.sectionStart).bind fun name =>
          pass [.closeTag (if name = "" then fragmentName else name) registers.tagStart]
            { registers with state := .text, sectionStart := cursor.index + 1 }
      else if isSpace byte then
        if cursor.index = registers.sectionStart then
          pass [] { registers with sectionStart := cursor.index + 1 }
        else
          (cursor.since? registers.sectionStart).bind fun name =>
            pass [] { registers with state := .closingEnd, closingName := name }
      else
        pass [] registers
  | .closingEnd =>
      if byte = '>'.toUInt8 then
        pass [.closeTag registers.closingName registers.tagStart]
          { registers with state := .text, sectionStart := cursor.index + 1 }
      else if isSpace byte then
        pass [] registers
      else
        cursor.unexpected? .closingTag
  | .beforeAttribute => stepBeforeAttribute? cursor [] registers byte
  | .attributeName =>
      if byte = '='.toUInt8 ∨ isSpace byte then
        (cursor.since? registers.sectionStart).bind fun name =>
          pass []
            { registers with
              state := if byte = '='.toUInt8 then .beforeValue else .afterAttributeName
              pending := some (name, cursor.location registers.sectionStart) }
      else if byte = '/'.toUInt8 ∨ byte = '>'.toUInt8 then
        (cursor.since? registers.sectionStart).bind fun name =>
          let written := Token.attribute name .bare (cursor.location registers.sectionStart)
          if byte = '>'.toUInt8 then
            cursor.endTag [written] false registers
          else
            pass [written] { registers with state := .selfClosing }
      else if byte = '"'.toUInt8 ∨ byte = '\''.toUInt8 ∨ byte = '<'.toUInt8 then
        cursor.unexpected? .attributeName
      else
        pass [] registers
  | .afterAttributeName =>
      if isSpace byte then
        pass [] registers
      else if byte = '='.toUInt8 then
        pass [] { registers with state := .beforeValue }
      else if byte = '"'.toUInt8 ∨ byte = '\''.toUInt8 ∨ byte = '<'.toUInt8 then
        cursor.unexpected? .afterAttributeName
      else
        stepBeforeAttribute? cursor registers.bare { registers with pending := none } byte
  | .beforeValue =>
      if isSpace byte then
        pass [] registers
      else if byte = '"'.toUInt8 ∨ byte = '\''.toUInt8 then
        pass [] { registers with state := .quotedValue byte, sectionStart := cursor.index + 1 }
      else if byte = '>'.toUInt8 then
        let (name, location) := cursor.awaited registers
        some (.error (.missingAttributeValue name location))
      else
        pass [] { registers with state := .unquotedValue, sectionStart := cursor.index }
  | .quotedValue quote =>
      if byte = quote then
        (cursor.valued? registers).bind fun written =>
          pass [written] { registers with state := .afterValue, pending := none }
      else
        pass [] registers
  | .unquotedValue =>
      if isSpace byte then
        (cursor.valued? registers).bind fun written =>
          pass [written] { registers with state := .beforeAttribute, pending := none }
      else if byte = '>'.toUInt8 then
        (cursor.valued? registers).bind fun written =>
          cursor.endTag [written] false { registers with pending := none }
      else
        (cursor.closesItself? byte).bind fun closesItself =>
          if closesItself then
            (cursor.valued? registers).bind fun written =>
              pass [written] { registers with state := .selfClosing, pending := none }
          else if byte = '"'.toUInt8 ∨ byte = '\''.toUInt8 ∨ byte = '<'.toUInt8 ∨ byte = '='.toUInt8
              ∨ byte = '\x60'.toUInt8 then
            cursor.unexpected? .unquotedValue
          else
            pass [] registers
  | .afterValue =>
      if isSpace byte then
        pass [] { registers with state := .beforeAttribute }
      else if byte = '>'.toUInt8 then
        cursor.endTag [] false registers
      else if byte = '/'.toUInt8 then
        pass [] { registers with state := .selfClosing }
      else
        cursor.unexpected? .afterAttributeValue
  | .spread =>
      if byte = '.'.toUInt8 ∧ registers.dots < 3 then
        pass [] { registers with dots := registers.dots + 1 }
      else
        cursor.unexpected? .spread
  | .comment =>
      if byte = '-'.toUInt8 then
        cursor.rest?.bind fun rest =>
          if ['-', '-', '>'].isPrefixOf rest then
            some (.ok ([], { registers with state := .text, sectionStart := cursor.index + 3 }, 2))
          else
            pass [] registers
      else
        pass [] registers

/-- What the end of a fragment leads to when an interpolated value follows. -/
def boundary? (cursor : Cursor) (registers : Registers)
    : Option (Except Error (List Token × Registers)) :=
  let slot := cursor.fragment
  let here := cursor.location (bytesOf cursor.input).length
  let after := { registers with state := .afterValue }
  let misplaced := fun place => some (Except.error (Error.misplacedInterpolation place here))
  match registers.state with
  | .text =>
      (cursor.text? registers).map fun tokens => .ok (tokens ++ [.child slot here], registers)
  | .beforeValue =>
      let (name, location) := cursor.awaited registers
      some (.ok ([.attribute name (.slot slot) location], { after with pending := none }))
  | .spread =>
      if registers.dots = 3 then
        some (.ok ([.spread slot registers.spreadStart], after))
      else
        misplaced .incompleteSpread
  | .beforeAttribute => some (.ok ([.dynamicName slot here], after))
  | .afterAttributeName =>
      some
        (.ok (registers.bare ++ [.dynamicName slot here], { after with pending := none }))
  | .comment => some (.ok ([.ignored slot], registers))
  | .quotedValue _ => misplaced .quotedValue
  | .unquotedValue => misplaced .unquotedValue
  | .tagStart | .tagName => misplaced .tagName
  | .closingName | .closingEnd => misplaced .closingTag
  | .attributeName => misplaced .attributeName
  | .afterValue => misplaced .afterAttributeValue
  | .selfClosing => misplaced .afterSlash

/-- What the end of the last fragment leads to. -/
def finish? (cursor : Cursor) (registers : Registers) : Option (Except Error (List Token)) :=
  match registers.state with
  | .text => (cursor.text? registers).map .ok
  | .comment => some (.error (.unexpectedEnd .comment))
  | _ => some (.error (.unexpectedEnd .tag))

-----------------------------------------------------------------------------------------
-- Runs
-----------------------------------------------------------------------------------------

/-- Reads the bytes from the cursor on, up to the end of the fragment. -/
def run? (cursor : Cursor) (registers : Registers) : Option (Scanned (Registers × Nat)) :=
  match _isByte : (bytesOf cursor.input)[cursor.index]? with
  | none => some ⟨[], .ok (registers, cursor.index)⟩
  | some byte =>
      match step? cursor registers byte with
      | none => none
      | some (.error error) => some ⟨[], .error error⟩
      | some (.ok (tokens, next, passed)) =>
          (run? { cursor with index := cursor.index + 1 + passed } next).map fun scanned =>
            ⟨tokens ++ scanned.tokens, scanned.result⟩
termination_by (bytesOf cursor.input).length - cursor.index
decreasing_by
  have := (List.getElem?_eq_some_iff.mp _isByte).1
  omega

/-- Reads the fragments from the one with the given number on. -/
def scanFrom? (fragment : Nat) (registers : Registers) : List String → Option (Scanned Unit)
  | [] =>
      (finish? ⟨"", fragment, 0⟩ registers).map fun
        | .error error => ⟨[], .error error⟩
        | .ok tokens => ⟨tokens, .ok ()⟩
  | [last] =>
      (run? ⟨last, fragment, 0⟩ { registers with sectionStart := 0 }).bind fun scanned =>
        match scanned.result with
        | .error error => some ⟨scanned.tokens, .error error⟩
        | .ok (reached, index) =>
            (finish? ⟨last, fragment, index⟩ reached).map fun
              | .error error => ⟨scanned.tokens, .error error⟩
              | .ok tokens => ⟨scanned.tokens ++ tokens, .ok ()⟩
  | first :: second :: others =>
      (run? ⟨first, fragment, 0⟩ { registers with sectionStart := 0 }).bind fun scanned =>
        match scanned.result with
        | .error error => some ⟨scanned.tokens, .error error⟩
        | .ok (reached, index) =>
            (boundary? ⟨first, fragment, index⟩ reached).bind fun
              | .error error => some ⟨scanned.tokens, .error error⟩
              | .ok (tokens, next) =>
                  (scanFrom? (fragment + 1) next (second :: others)).map fun following =>
                    ⟨scanned.tokens ++ tokens ++ following.tokens, following.result⟩

/-- The tokens of a template up to its end or to the first failure. Nothing if a text would have
to be cut out of a fragment behind its end or inside a character.
-/
def scan? (fragments : List String) : Option (Scanned Unit) :=
  scanFrom? 0 {} fragments

end TaggedMarkup.Bytes
