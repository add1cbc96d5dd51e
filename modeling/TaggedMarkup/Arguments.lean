/-! The arguments of the command line as a request for one of the commands. Options may stand
before and after the file, and the value of an option follows it or an equality sign in it.
-/

namespace TaggedMarkup

inductive Action where
  | render
  | inspect
deriving DecidableEq, Repr

/-- A request with everything that can be given for either command. -/
structure Request where
  action : Action
  file : Option String := none
  config : Option String := none
  output : Option String := none
  values : Option String := none
  valuesFile : Option String := none
  staticMarkup : Bool := false
  compact : Bool := false
deriving DecidableEq, Repr

inductive ArgumentError where
  | missingCommand
  | unknownCommand (word : String)
  | missingFile
  | unexpected (word : String)
  | missingValue (option : String)
  | conflict (first second : String)
deriving DecidableEq, Repr

def ArgumentError.message : ArgumentError → String
  | .missingCommand => "expected a command, render or inspect"
  | .unknownCommand word => "unrecognized command " ++ word
  | .missingFile => "expected a template file"
  | .unexpected word => "unexpected argument " ++ word
  | .missingValue option => "expected a value for " ++ option
  | .conflict first second => first ++ " cannot be used with " ++ second

namespace Request

/-- The request with an option that has a value, when the command knows it. -/
def withOption? (request : Request) (option value : String) : Option Request :=
  match option with
  | "-c" | "--config" => some { request with config := some value }
  | "-o" | "--output" => some { request with output := some value }
  | "--values" =>
      if request.action = .render then some { request with values := some value } else none
  | "--values-file" =>
      if request.action = .render then some { request with valuesFile := some value } else none
  | _ => none

/-- The request with an option that has no value, when the command knows it. -/
def withFlag? (request : Request) (flag : String) : Option Request :=
  match flag with
  | "--static-markup" =>
      if request.action = .render then some { request with staticMarkup := true } else none
  | "--compact" =>
      if request.action = .inspect then some { request with compact := true } else none
  | "--verbose" => some request
  | _ => none

/-- The request with its file, of which there is one. -/
def withFile (request : Request) (word : String) : Except ArgumentError Request :=
  if request.file.isSome || (word.toList.head? = some '-' && word ≠ "-") then
    .error (.unexpected word)
  else
    .ok { request with file := some word }

/-- An option and its value in one word. -/
def splitAtEquals (word : String) : Option (String × String) :=
  let text := word.toList
  match text.dropWhile (· ≠ '=') with
  | [] => none
  | _ :: value => some (String.ofList (text.takeWhile (· ≠ '=')), String.ofList value)

def readWord (request : Request) (word : String) : Except ArgumentError Request :=
  match request.withFlag? word with
  | some changed => .ok changed
  | none =>
      let joined := (splitAtEquals word).bind fun (option, value) =>
        request.withOption? option value
      match joined with
      | some changed => .ok changed
      | none => request.withFile word

def readWords (request : Request) : List String → Except ArgumentError Request
  | [] => .ok request
  | [word] =>
      if (request.withOption? word "").isSome then
        .error (.missingValue word)
      else
        readWord request word
  | word :: value :: rest =>
      match request.withOption? word value with
      | some changed => readWords changed rest
      | none => do
          let changed ← readWord request word
          readWords changed (value :: rest)

def actionOf : String → Except ArgumentError Action
  | "render" => .ok .render
  | "inspect" => .ok .inspect
  | word => .error (.unknownCommand word)

/-- Reads the arguments of the command line. -/
def ofArguments : List String → Except ArgumentError Request
  | [] => .error .missingCommand
  | "--verbose" :: rest => ofArguments rest
  | word :: rest => do
      let request ← readWords { action := ← actionOf word } rest
      if request.values.isSome && request.valuesFile.isSome then
        .error (.conflict "--values" "--values-file")
      else if request.file.isNone then
        .error .missingFile
      else
        .ok request

end Request

end TaggedMarkup
