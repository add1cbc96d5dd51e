import TaggedMarkup.Fields
import TaggedMarkup.Number.Text

/-! JSON data. An object keeps all of its fields in the order of the text, also those with
the same name. Whole numbers that fit into sixty-four bits are kept apart from other numbers.
-/

namespace TaggedMarkup

inductive Json where
  | null
  | bool (value : Bool)
  | integer (value : Int)
  | number (value : Binary64)
  | string (value : String)
  | array (items : List Json)
  | object (fields : List (String × Json))
deriving Repr

namespace Json

def hexChar (digit : Nat) : Char :=
  (Nat.toDigits 16 digit).headD '0'

/-- A character in a JSON text between quotes. -/
def quotedChar (c : Char) : List Char :=
  match c with
  | '"' => ['\\', '"']
  | '\\' => ['\\', '\\']
  | '\n' => ['\\', 'n']
  | '\r' => ['\\', 'r']
  | '\t' => ['\\', 't']
  | '\x08' => ['\\', 'b']
  | '\x0c' => ['\\', 'f']
  | c =>
      if c.toNat < 32 then
        ['\\', 'u', '0', '0', hexChar (c.toNat / 16), hexChar (c.toNat % 16)]
      else
        [c]

def quoted (text : String) : String :=
  String.ofList ('"' :: text.toList.flatMap quotedChar ++ ['"'])

mutual

def compact : Json → String
  | .null => "null"
  | .bool true => "true"
  | .bool false => "false"
  | .integer value => toString value
  | .number value => value.text
  | .string value => quoted value
  | .array items => "[" ++ String.intercalate "," (compactItems items) ++ "]"
  | .object fields => "\x7b" ++ String.intercalate "," (compactFields fields) ++ "\x7d"

/-- The items of an array as texts without spaces. -/
def compactItems : List Json → List String
  | [] => []
  | item :: rest => item.compact :: compactItems rest

/-- The fields of an object as texts without spaces. -/
def compactFields : List (String × Json) → List String
  | [] => []
  | (name, value) :: rest => (quoted name ++ ":" ++ value.compact) :: compactFields rest

end

/-- The lines of an array or object between its brackets, two spaces further in. -/
def bracketed (opening closing : String) (indent : Nat) (lines : List String) : String :=
  if lines.isEmpty then
    opening ++ closing
  else
    let margin := fun (width : Nat) => "\n" ++ String.ofList (List.replicate width ' ')
    opening ++ margin (indent + 2) ++ String.intercalate ("," ++ margin (indent + 2)) lines
      ++ margin indent ++ closing

mutual

/-- The value as text with one item or field a line. -/
def pretty (indent : Nat) : Json → String
  | .array items => bracketed "[" "]" indent (prettyItems (indent + 2) items)
  | .object fields => bracketed "\x7b" "\x7d" indent (prettyFields (indent + 2) fields)
  | .null => "null"
  | .bool true => "true"
  | .bool false => "false"
  | .integer value => toString value
  | .number value => value.text
  | .string value => quoted value

/-- The items of an array as texts. -/
def prettyItems (indent : Nat) : List Json → List String
  | [] => []
  | item :: rest => pretty indent item :: prettyItems indent rest

/-- The fields of an object as texts. -/
def prettyFields (indent : Nat) : List (String × Json) → List String
  | [] => []
  | (name, value) :: rest =>
      (quoted name ++ ": " ++ pretty indent value) :: prettyFields indent rest

end

/-- The value as text in one line or in many. -/
def print (inOneLine : Bool) (json : Json) : String :=
  if inOneLine then json.compact else json.pretty 0

def ofNat (value : Nat) : Json :=
  .integer value

/-- The value of a part that may be missing. -/
def ofOption {α : Type} (toJson : α → Json) : Option α → Json
  | some value => toJson value
  | none => .null

end Json

end TaggedMarkup
