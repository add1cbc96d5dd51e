import TaggedMarkup.Arguments
import TaggedMarkup.Command

/-! The program reads the files that a request names, runs the command and writes what the
command gives out. It ends with one after a failure.
-/

namespace TaggedMarkup

/-- Reads a file, or the standard input in place of a dash. -/
def readContents (path : String) : IO Command.Contents := do
  try
    let text ← if path = "-" then (← IO.getStdin).readToEnd else IO.FS.readFile path
    return .ok text
  catch error =>
    return .error (.read path (toString error))

/-- Reads the configuration file that is given, or the one that may stand in the working
directory. -/
def readConfig (path : Option String) : IO (Option Command.Contents) := do
  match path with
  | some path => return some (← readContents path)
  | none =>
      try
        return some (.ok (← IO.FS.readFile Command.configFile))
      catch
        | .noFileOrDirectory .. => return none
        | error => return some (.error (.read Command.configFile (toString error)))

/-- Reads the values of a request, if it gives any. -/
def readValues (request : Request) : IO (Option Command.Contents) := do
  match request.values, request.valuesFile with
  | some text, _ => return some (.ok text)
  | none, some path =>
      try
        return some (.ok (← IO.FS.readFile path))
      catch error =>
        return some (.error (.read path (toString error)))
  | none, none => return none

/-- Writes to a file, or to the standard output. -/
def writeOutput (path : Option String) (text : String) : IO (Except CommandError Unit) := do
  match path with
  | none =>
      IO.println text
      return .ok ()
  | some path =>
      try
        IO.FS.writeFile path text
        return .ok ()
      catch error =>
        return .error (.write path (toString error))

def Request.perform (request : Request) : IO (Except CommandError Unit) := do
  let configPath := request.config.getD Command.configFile
  let config ← readConfig request.config
  let source ← readContents (request.file.getD "-")
  let result ←
    match request.action with
    | .render =>
        let values ← readValues request
        pure (Command.render request.staticMarkup configPath config source values)
    | .inspect =>
        pure ((Command.inspect configPath config source).map (Json.print request.compact))
  match result with
  | .ok text => writeOutput request.output text
  | .error error => return .error error

end TaggedMarkup

/-- Runs the command that the arguments ask for. -/
def main (args : List String) : IO UInt32 := do
  match TaggedMarkup.Request.ofArguments args with
  | .error error =>
      IO.eprintln ("error: " ++ error.message)
      return 2
  | .ok request =>
      match ← request.perform with
      | .ok () => return 0
      | .error error =>
          IO.eprintln ("\x1b[31mError:\x1b[0m " ++ error.message)
          return 1
