import TaggedMarkup.Json.Reader
import TaggedMarkup.Text.Blank
import TaggedMarkup.Value

/-! A template file is markup with placeholders, each a dollar sign and a text in braces. The
text names the value of the placeholder or is a JSON literal. A backslash before a dollar
sign keeps the sign as it is.
-/

namespace TaggedMarkup

/-- Why a template file cannot be used. -/
inductive TemplateFileError where
  | unterminatedPlaceholder (offset : Nat)
  | missingValue (name : String)
  | valueCount (expected received : Nat)
deriving DecidableEq, Repr

def TemplateFileError.message : TemplateFileError → String
  | .unterminatedPlaceholder offset =>
      s!"Unterminated placeholder starting at byte {offset}"
  | .missingValue name => "No value for placeholder `$\x7b" ++ name ++ "\x7d`"
  | .valueCount expected received =>
      s!"Template has {expected} placeholders but {received} values were given"

/-- The literal fragments of a file and the texts of the placeholders between them. -/
structure TemplateFile where
  fragments : List String
  placeholders : List String
deriving DecidableEq, Repr

namespace TemplateFile

/-- A file that begins with a fragment and a placeholder. -/
def cons (fragment placeholder : String) (rest : TemplateFile) : TemplateFile where
  fragments := fragment :: rest.fragments
  placeholders := placeholder :: rest.placeholders

/-- Where in a placeholder a character stands. -/
inductive Inside where
  /-- Outside of quotes, within this many braces of its own. -/
  | plain (depth : Nat)
  | quoted (depth : Nat) (quote : Char)
  | escaped (depth : Nat) (quote : Char)
deriving DecidableEq, Repr

/-- What a character leads to in a placeholder. Nothing means that it is the closing brace. -/
def Inside.next? (inside : Inside) (c : Char) : Option Inside :=
  match inside with
  | .plain depth =>
      match c with
      | '{' => some (.plain (depth + 1))
      | '}' =>
          match depth with
          | 0 => none
          | outer + 1 => some (.plain outer)
      | '"' | '\'' => some (.quoted depth c)
      | _ => some (.plain depth)
  | .quoted depth quote =>
      if c = quote then
        some (.plain depth)
      else if c = '\\' then
        some (.escaped depth quote)
      else
        some (.quoted depth quote)
  | .escaped depth quote => some (.quoted depth quote)

/-- What is being read: a fragment, also after a backslash or a dollar sign in it, or a
placeholder after a fragment. `start` is the byte of the dollar sign. -/
inductive Reading where
  | fragment (read : String)
  | backslash (read : String)
  | dollar (read : String) (start : Nat)
  | placeholder (before : String) (start : Nat) (inside : Inside) (read : String)
deriving DecidableEq, Repr

/-- What a character in a fragment leads to, after what has been read. -/
def Reading.ofChar (read : String) (offset : Nat) (c : Char) : Reading :=
  match c with
  | '\\' => .backslash read
  | '$' => .dollar read offset
  | _ => .fragment (read.push c)

/-- Reads the file from a byte on. -/
def read (reading : Reading) (offset : Nat) : List Char → Except TemplateFileError TemplateFile
  | [] =>
      match reading with
      | .fragment text => .ok ⟨[text], []⟩
      | .backslash text => .ok ⟨[text.push '\\'], []⟩
      | .dollar text _ => .ok ⟨[text.push '$'], []⟩
      | .placeholder _ start _ _ => .error (.unterminatedPlaceholder start)
  | c :: rest =>
      let after := offset + c.utf8Size
      match reading with
      | .fragment text => read (.ofChar text offset c) after rest
      | .backslash text =>
          if c = '$' then
            read (.fragment (text.push '$')) after rest
          else
            read (.ofChar (text.push '\\') offset c) after rest
      | .dollar text start =>
          if c = '{' then
            read (.placeholder text start (.plain 0) "") after rest
          else
            read (.ofChar (text.push '$') offset c) after rest
      | .placeholder before start inside text =>
          match inside.next? c with
          | some next => read (.placeholder before start next (text.push c)) after rest
          | none => (read (.fragment "") after rest).map (cons before (Text.trim text))

def parse (source : String) : Except TemplateFileError TemplateFile :=
  read (.fragment "") 0 source.toList

end TemplateFile

mutual

def Json.toValue : Json → Value
  | .null => .null
  | .bool value => .bool value
  | .integer value => .number (Binary64.ofInt value)
  | .number value => .number value
  | .string value => .string value
  | .array items => .array (Json.toValues items)
  | .object fields => .object (Fields.ofEntries (Json.toFields fields))

/-- The values of the items of an array. -/
def Json.toValues : List Json → List Value
  | [] => []
  | item :: rest => item.toValue :: Json.toValues rest

/-- The values of the fields of an object. -/
def Json.toFields : List (String × Json) → List (String × Value)
  | [] => []
  | (name, value) :: rest => (name, value.toValue) :: Json.toFields rest

end

namespace TemplateFile

/-- The value of a placeholder that is a literal. `read?` gives the value of a JSON text. -/
def literal? (read? : String → Option Json) (placeholder : String) : Option Value :=
  if placeholder = "undefined" then
    some .undefined
  else
    (read? placeholder).map Json.toValue

/-- The value of a placeholder: the one that is given for its text, or a literal. -/
def valueOf (read? : String → Option Json) (given : Props) (placeholder : String)
    : Except TemplateFileError Value :=
  match Fields.get? given placeholder with
  | some value => .ok value
  | none =>
      match literal? read? placeholder with
      | some value => .ok value
      | none => .error (.missingValue placeholder)

/-- The values of a list of placeholders in order. -/
def valuesOf (read? : String → Option Json) (given : Props)
    : List String → Except TemplateFileError (List Value)
  | [] => .ok []
  | placeholder :: rest => do
      let value ← valueOf read? given placeholder
      let values ← valuesOf read? given rest
      .ok (value :: values)

/-- The values that stand for the placeholders by position. -/
def positional (file : TemplateFile) (values : List Value)
    : Except TemplateFileError (List Value) :=
  if values.length = file.placeholders.length then
    .ok values
  else
    .error (.valueCount file.placeholders.length values.length)

/-- The values of the placeholders. An array gives them by position and an object by text;
another value is that of the only placeholder. -/
def bindWith (read? : String → Option Json) (file : TemplateFile) (data : Option Json)
    : Except TemplateFileError (List Value) :=
  match data with
  | none => valuesOf read? [] file.placeholders
  | some (.array items) => file.positional (Json.toValues items)
  | some (.object fields) =>
      valuesOf read? (Fields.ofEntries (Json.toFields fields)) file.placeholders
  | some single => file.positional [single.toValue]

/-- The values of the placeholders, of which those that are literals are read as JSON texts. -/
def bind (file : TemplateFile) (data : Option Json) : Except TemplateFileError (List Value) :=
  file.bindWith Json.parse? data

end TemplateFile

end TaggedMarkup
