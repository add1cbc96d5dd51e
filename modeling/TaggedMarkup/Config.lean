import TaggedMarkup.Engine
import TaggedMarkup.Json.Reader

/-! A configuration file is a JSON object with the options of reading and rendering and with
component names that stand for host elements. Fields that are not known are ignored, and a
known field may occur once.
-/

namespace TaggedMarkup

structure Config where
  /-- The place of a description of the file for editors. -/
  schema : Option String := none
  options : Options := {}
  /-- The host elements that component names stand for. -/
  aliases : Fields String := []

namespace Config

/-- The values of a field in the order of the text. -/
def occurrences (fields : List (String × Json)) (name : String) : List Json :=
  fields.filterMap fun field => if field.1 == name then some field.2 else none

/-- The value of a field that may be missing, which must not occur twice. -/
def field? (fields : List (String × Json)) (name : String) : Option (Option Json) :=
  match occurrences fields name with
  | [] => some none
  | [value] => some (some value)
  | _ => none

/-- Reads a value, with a default when it is missing. -/
def orDefault {α : Type} (value : α) (read : Json → Option α) : Option Json → Option α
  | none => some value
  | some json => read json

def bool? : Json → Option Bool
  | .bool value => some value
  | _ => none

def string? : Json → Option String
  | .string value => some value
  | _ => none

def count? : Json → Option Nat
  | .integer value => if 0 ≤ value then some value.toNat else none
  | _ => none

/-- The treatment of spaces by its name. -/
def whitespaceOfName? (name : String) : Option Whitespace :=
  if name = "condense" then
    some .condense
  else if name = "preserve" then
    some .preserve
  else
    none

/-- Reads the treatment of spaces: its name, or an object whose only field has that name and no
content. -/
def whitespace? : Json → Option Whitespace
  | .string name => whitespaceOfName? name
  | .object [(name, .null)] => whitespaceOfName? name
  | .object [(name, .object [])] => whitespaceOfName? name
  | _ => none

/-- The values of the given names: the fields of an object, or the first items of an array that
is not longer than the names. -/
def parts? (names : List String) : Json → Option (List (Option Json))
  | .object fields => names.mapM (field? fields)
  | .array items =>
      if items.length ≤ names.length then
        some ((List.range names.length).map fun position => items[position]?)
      else
        none
  | _ => none

/-- The names of the options of reading. -/
def readNames : List String :=
  ["whitespace", "decodeEntities"]

def readOptions? (json : Json) : Option ReadOptions := do
  let standard : ReadOptions := {}
  match ← parts? readNames json with
  | [whitespace, decode] => do
      let whitespace ← orDefault standard.whitespace whitespace? whitespace
      let decodeReferences ← orDefault standard.decodeReferences bool? decode
      return { standard with whitespace, decodeReferences }
  | _ => none

/-- The names of the options of rendering. -/
def renderNames : List String :=
  ["rootMarker", "staticMarkup", "maxDepth"]

def renderOptions? (json : Json) : Option RenderOptions := do
  let standard : RenderOptions := {}
  match ← parts? renderNames json with
  | [marker, static, depth] => do
      let rootMarker ← orDefault standard.rootMarker bool? marker
      let staticMarkup ← orDefault standard.staticMarkup bool? static
      let maxDepth ← orDefault standard.maxDepth count? depth
      return { rootMarker, staticMarkup, maxDepth }
  | _ => none

/-- Reads the place of a description, which may be `null`. -/
def schema? : Json → Option (Option String)
  | .null => some none
  | json => (string? json).map some

/-- Reads the names of host elements. The last value of a name counts. -/
def aliases? : Json → Option (Fields String)
  | .object fields => do
      let entries ← fields.mapM fun (name, json) => (string? json).map fun tag => (name, tag)
      return Fields.ofEntries entries
  | _ => none

def ofJson? : Json → Option Config
  | .object fields => do
      let schema ← orDefault none schema? (← field? fields "$schema")
      let read ← orDefault {} readOptions? (← field? fields "parser")
      let render ← orDefault {} renderOptions? (← field? fields "render")
      let aliases ← orDefault [] aliases? (← field? fields "aliases")
      return { schema, options := { read, render }, aliases }
  | _ => none

/-- Reads the text of a configuration file. -/
def parse? (text : String) : Option Config :=
  (Json.parse? text).bind ofJson?

/-- The aliases in the order of their names. -/
def sortedAliases (config : Config) : List (String × String) :=
  config.aliases.mergeSort fun first second => decide (first.1 ≤ second.1)

/-- The name of a treatment of spaces. -/
def whitespaceName : Whitespace → String
  | .condense => "condense"
  | .preserve => "preserve"

/-- The configuration as data. What is empty is left out. -/
def toJson (config : Config) : Json :=
  let read := config.options.read
  let render := config.options.render
  .object <|
    (match config.schema with
      | some schema => [("$schema", Json.string schema)]
      | none => [])
      ++ [("parser",
            .object
              [("whitespace", .string (whitespaceName read.whitespace)),
                ("decodeEntities", .bool read.decodeReferences)]),
          ("render",
            .object
              [("rootMarker", .bool render.rootMarker),
                ("staticMarkup", .bool render.staticMarkup),
                ("maxDepth", .ofNat render.maxDepth)])]
      ++ if config.aliases.isEmpty then
          []
        else
          [("aliases",
            .object (config.sortedAliases.map fun (name, tag) => (name, .string tag)))]

/-- The engine with these options in which the aliases are registered. -/
def engine (config : Config) : Except Error Engine :=
  let components := config.sortedAliases.map fun (name, tag) => (name, Component.alias tag)
  match (Engine.ofOptions config.options).register components with
  | (.ok (), engine) => .ok engine
  | (.error error, _) => .error error

end Config

end TaggedMarkup
