import TaggedMarkup.Json

/-! A JSON text is read one character at a time by a machine with a stack. The stack holds the
arrays and objects that are not complete, and the mode says what may come next. The text has
to be one value with nothing but spaces around it.
-/

namespace TaggedMarkup.Json.Reader

/-- An array or object that is not complete, with what it holds so far. -/
inductive Frame where
  | array (items : List Json)
  /-- `name` is the name of the field whose value is being read. -/
  | object (fields : List (String × Json)) (name : String)

inductive Use where
  | value
  | name
deriving DecidableEq, Repr

/-- How far a number has been read. -/
inductive NumberStage where
  | minus
  | zero
  | whole
  | point
  | fraction
  | mark
  | sign
  | exponent
deriving DecidableEq, Repr

structure Numeral where
  stage : NumberStage
  negative : Bool := false
  digits : Nat := 0
  /-- How many places of the whole part are not among the digits. -/
  dropped : Nat := 0
  /-- How many of the digits stand after the point. -/
  scale : Nat := 0
  /-- Whether the rest of the fraction is passed over. -/
  isCut : Bool := false
  exponentNegative : Bool := false
  exponent : Nat := 0
  /-- Whether there is a point or an exponent. -/
  isFraction : Bool := false
deriving DecidableEq, Repr

inductive Mode where
  | value
  /-- The first item of an array, or its end. -/
  | firstItem
  /-- The first name of an object, or its end. -/
  | firstName
  | name
  | colon
  /-- A comma or the end of the innermost array or object. -/
  | afterItem
  | text (use : Use) (read : String)
  | escape (use : Use) (read : String)
  /-- A hexadecimal digit of an escaped code unit. `high` is the first half of a pair. -/
  | unit (use : Use) (read : String) (high : Option Nat) (missing value : Nat)
  /-- The backslash of the second half of a pair. -/
  | pairEscape (use : Use) (read : String) (high : Nat)
  | pairLetter (use : Use) (read : String) (high : Nat)
  | number (numeral : Numeral)
  /-- The rest of a word that stands for a value. -/
  | word (rest : List Char) (value : Json)
  | finished (value : Json)

structure Machine where
  frames : List Frame := []
  mode : Mode := .value

/-- Space, line feed, tab or carriage return. -/
def isSpace (c : Char) : Bool :=
  c == ' ' || c == '\n' || c == '\t' || c == '\r'

/-- How many arrays and objects may be nested. -/
def maxNesting : Nat :=
  127

def complete (frames : List Frame) (value : Json) : Machine :=
  match frames with
  | [] => { mode := .finished value }
  | .array items :: outer => { frames := .array (items ++ [value]) :: outer, mode := .afterItem }
  | .object fields name :: outer =>
      { frames := .object (fields ++ [(name, value)]) "" :: outer, mode := .afterItem }

/-- Begins an array or object, if it is not nested too deep. -/
def enter (frames : List Frame) (frame : Frame) (mode : Mode) : Option Machine :=
  if frames.length < maxNesting then some { frames := frame :: frames, mode } else none

/-- Whether the digits fit into sixty-four bits with one more. -/
def Numeral.hasRoom (numeral : Numeral) (digit : Nat) : Bool :=
  numeral.digits * 10 + digit < powerOfTwo 64

/-- A digit of the whole part. From the first one without room on, digits count as places. -/
def Numeral.withWhole (numeral : Numeral) (digit : Nat) : Numeral :=
  if numeral.dropped = 0 && numeral.hasRoom digit then
    { numeral with digits := numeral.digits * 10 + digit }
  else
    { numeral with dropped := numeral.dropped + 1 }

/-- A digit of the fraction. From the first one without room on, digits are passed over. -/
def Numeral.withFraction (numeral : Numeral) (digit : Nat) : Numeral :=
  if !numeral.isCut && numeral.hasRoom digit then
    { numeral with digits := numeral.digits * 10 + digit, scale := numeral.scale + 1 }
  else
    { numeral with isCut := true }

/-- The largest power of ten that a number holds. -/
def maxPower : Int :=
  308

/-- A number times a power of ten. The power is a number itself, and the product or quotient is
rounded again. Below the least power there are two steps, behind which nothing is left of
digits of sixty-four bits. A product that is too large is refused.
-/
def scaled? (size : Binary64) (exponent : Int) : Option Binary64 :=
  let power := fun (exponent : Int) => Binary64.ofInt (powerOfTen exponent.toNat)
  if maxPower < exponent then
    if size.isZero then some size else none
  else if 0 ≤ exponent then
    let product := size.mul (power exponent)
    if product.isInfinite then none else some product
  else if -maxPower ≤ exponent then
    some (size.div (power (-exponent)))
  else if -maxPower ≤ exponent + maxPower then
    some ((size.div (power maxPower)).div (power (-(exponent + maxPower))))
  else
    some (.zero false)

/-- The value of a complete number. A number that is too large is refused. -/
def Numeral.value? (numeral : Numeral) : Option Json :=
  let isWhole :=
    !numeral.isFraction && numeral.dropped = 0
      && (!numeral.negative || (0 < numeral.digits && numeral.digits ≤ powerOfTwo 63))
  if isWhole then
    some (.integer (if numeral.negative then -numeral.digits else numeral.digits))
  else
    let exponent : Int :=
      if numeral.exponentNegative then -numeral.exponent else numeral.exponent
    (scaled? (.ofInt numeral.digits) (numeral.dropped - numeral.scale + exponent)).map
      fun size => .number (.ofMagnitude numeral.negative size.magnitude)

/-- Whether a number may end where it is. -/
def Numeral.mayEnd (numeral : Numeral) : Bool :=
  match numeral.stage with
  | .zero | .whole | .fraction | .exponent => true
  | .minus | .point | .mark | .sign => false

/-- The number with one more character, if the character goes on with it. -/
def Numeral.next? (numeral : Numeral) (c : Char) : Option Numeral :=
  let digit := TaggedMarkup.Numeral.digit? c
  let withWhole := fun (stage : NumberStage) (value : Nat) =>
    { numeral.withWhole value with stage }
  let withFraction := fun (value : Nat) =>
    { numeral.withFraction value with stage := .fraction }
  let withExponent := fun (value : Nat) =>
    { numeral with stage := .exponent, exponent := numeral.exponent * 10 + value }
  let point : Numeral := { numeral with stage := .point, isFraction := true }
  let mark : Numeral := { numeral with stage := .mark, isFraction := true }
  match numeral.stage with
  | .minus => digit.map fun value => withWhole (if value = 0 then .zero else .whole) value
  | .zero =>
      if c = '.' then some point else if c = 'e' ∨ c = 'E' then some mark else none
  | .whole =>
      if c = '.' then
        some point
      else if c = 'e' ∨ c = 'E' then
        some mark
      else
        digit.map (withWhole .whole)
  | .point => digit.map withFraction
  | .fraction =>
      if c = 'e' ∨ c = 'E' then
        some mark
      else
        digit.map withFraction
  | .mark =>
      if c = '+' then
        some { numeral with stage := .sign }
      else if c = '-' then
        some { numeral with stage := .sign, exponentNegative := true }
      else
        digit.map withExponent
  | .sign => digit.map withExponent
  | .exponent => digit.map withExponent

/-- Reads the first character of a value. -/
def startValue (frames : List Frame) (c : Char) : Option Machine :=
  match c with
  | '[' => enter frames (.array []) .firstItem
  | '{' => enter frames (.object [] "") .firstName
  | '"' => some { frames, mode := .text .value "" }
  | '-' => some { frames, mode := .number { stage := .minus, negative := true } }
  | 'n' => some { frames, mode := .word ['u', 'l', 'l'] .null }
  | 't' => some { frames, mode := .word ['r', 'u', 'e'] (.bool true) }
  | 'f' => some { frames, mode := .word ['a', 'l', 's', 'e'] (.bool false) }
  | c =>
      (Numeral.next? { stage := .minus } c).map fun numeral =>
        { frames, mode := .number numeral }

/-- Reads a character after a complete item or field. -/
def stepAfterItem (frames : List Frame) (c : Char) : Option Machine :=
  if isSpace c then
    some { frames, mode := .afterItem }
  else
    match frames, c with
    | .array items :: outer, ']' => some (complete outer (.array items))
    | .array _ :: _, ',' => some { frames, mode := .value }
    | .object fields _ :: outer, '}' => some (complete outer (.object fields))
    | .object .. :: _, ',' => some { frames, mode := .name }
    | _, _ => none

def endText (frames : List Frame) (use : Use) (read : String) : Option Machine :=
  match use with
  | .value => some (complete frames (.string read))
  | .name =>
      match frames with
      | .object fields _ :: outer =>
          some { frames := .object fields read :: outer, mode := .colon }
      | _ => none

/-- The character that a backslash and a letter stand for. -/
def escaped? (c : Char) : Option Char :=
  match c with
  | '"' => some '"'
  | '\\' => some '\\'
  | '/' => some '/'
  | 'b' => some '\x08'
  | 'f' => some '\x0c'
  | 'n' => some '\n'
  | 'r' => some '\r'
  | 't' => some '\t'
  | _ => none

/-- Goes on after a complete code unit. Halves of a pair that stand alone are refused. -/
def endUnit (frames : List Frame) (use : Use) (read : String) (high : Option Nat)
    (unit : Nat) : Option Machine :=
  match high with
  | none =>
      if 0xd800 ≤ unit ∧ unit ≤ 0xdbff then
        some { frames, mode := .pairEscape use read unit }
      else if 0xdc00 ≤ unit ∧ unit ≤ 0xdfff then
        none
      else
        some { frames, mode := .text use (read.push (Char.ofNat unit)) }
  | some first =>
      if 0xdc00 ≤ unit ∧ unit ≤ 0xdfff then
        let code := 0x10000 + (first - 0xd800) * 0x400 + (unit - 0xdc00)
        some { frames, mode := .text use (read.push (Char.ofNat code)) }
      else
        none

def step (machine : Machine) (c : Char) : Option Machine :=
  let frames := machine.frames
  match machine.mode with
  | .value => if isSpace c then some machine else startValue frames c
  | .firstItem =>
      if isSpace c then
        some machine
      else if c = ']' then
        stepAfterItem frames c
      else
        startValue frames c
  | .firstName =>
      if isSpace c then
        some machine
      else if c = '}' then
        stepAfterItem frames c
      else if c = '"' then
        some { frames, mode := .text .name "" }
      else
        none
  | .name =>
      if isSpace c then
        some machine
      else if c = '"' then
        some { frames, mode := .text .name "" }
      else
        none
  | .colon =>
      if isSpace c then
        some machine
      else if c = ':' then
        some { frames, mode := .value }
      else
        none
  | .afterItem => stepAfterItem frames c
  | .text use read =>
      if c = '"' then
        endText frames use read
      else if c = '\\' then
        some { frames, mode := .escape use read }
      else if c.toNat < 32 then
        none
      else
        some { frames, mode := .text use (read.push c) }
  | .escape use read =>
      if c = 'u' then
        some { frames, mode := .unit use read none 4 0 }
      else
        (escaped? c).map fun plain => { frames, mode := .text use (read.push plain) }
  | .unit use read high missing value =>
      match TaggedMarkup.Numeral.hexDigit? c with
      | none => none
      | some digit =>
          if missing ≤ 1 then
            endUnit frames use read high (value * 16 + digit)
          else
            some { frames, mode := .unit use read high (missing - 1) (value * 16 + digit) }
  | .pairEscape use read high =>
      if c = '\\' then some { frames, mode := .pairLetter use read high } else none
  | .pairLetter use read high =>
      if c = 'u' then some { frames, mode := .unit use read (some high) 4 0 } else none
  | .number numeral =>
      match numeral.next? c with
      | some longer => some { frames, mode := .number longer }
      | none =>
          if numeral.mayEnd then
            match numeral.value? with
            | none => none
            | some value =>
                let after := complete frames value
                match after.mode with
                | .finished _ => if isSpace c then some after else none
                | _ => stepAfterItem after.frames c
          else
            none
  | .word rest value =>
      match rest with
      | [] => none
      | [last] => if c = last then some (complete frames value) else none
      | next :: others =>
          if c = next then some { frames, mode := .word others value } else none
  | .finished _ => if isSpace c then some machine else none

/-- The value at the end of the text. -/
def finish (machine : Machine) : Option Json :=
  match machine.mode, machine.frames with
  | .finished value, [] => some value
  | .number numeral, [] => if numeral.mayEnd then numeral.value? else none
  | _, _ => none

end TaggedMarkup.Json.Reader

namespace TaggedMarkup

/-- The value of a JSON text, if the text is one. -/
def Json.parse? (text : String) : Option Json :=
  (text.toList.foldlM Json.Reader.step {}).bind Json.Reader.finish

end TaggedMarkup
