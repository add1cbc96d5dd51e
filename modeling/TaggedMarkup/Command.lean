import TaggedMarkup.Config
import TaggedMarkup.Script
import TaggedMarkup.TemplateFile
import TaggedMarkup.Tree.Report

/-! The commands turn a template file into markup or into a report of its tree. A command is
given the contents of its files, each of which may have failed to be read, and stops at the
first failure.
-/

namespace TaggedMarkup

inductive CommandError where
  | read (path reason : String)
  | write (path reason : String)
  | config (path : String)
  | values
  | file (error : TemplateFileError)
  | template (error : Error)
deriving DecidableEq, Repr

def CommandError.message : CommandError → String
  | .read path reason => "Failed to read " ++ path ++ ": " ++ reason
  | .write path reason => "Failed to write " ++ path ++ ": " ++ reason
  | .config path => "Failed to parse " ++ path ++ ": not a configuration"
  | .values => "Invalid values: not a JSON text"
  | .file error => error.message
  | .template error => error.message

namespace Command

abbrev Contents := Except CommandError String

/-- The name of the configuration file that is used when none is given. -/
def configFile : String :=
  "etch.config.json"

/-- The configuration in a file, or the default when there is no file. -/
def loadConfig (path : String) (contents : Option Contents) : Except CommandError Config :=
  match contents with
  | none => .ok {}
  | some contents => do
      match Config.parse? (← contents) with
      | some config => .ok config
      | none => .error (.config path)

def loadTemplate (contents : Contents) : Except CommandError TemplateFile := do
  (TemplateFile.parse (← contents)).mapError .file

/-- The values in a text or a file, if there are any. -/
def loadValues (contents : Option Contents) : Except CommandError (Option Json) :=
  match contents with
  | none => .ok none
  | some contents => do
      match Json.parse? (← contents) with
      | some json => .ok (some json)
      | none => .error .values

def render (static : Bool) (configPath : String) (config : Option Contents)
    (source : Contents) (values : Option Contents) : Except CommandError String := do
  let config ← loadConfig configPath config
  let engine ← config.engine.mapError .template
  let file ← loadTemplate source
  let data ← loadValues values
  let bound ← (file.bind data).mapError .file
  let options := engine.settings.options
  let static := options.render.staticMarkup || static
  let engine :=
    { engine with
      settings :=
        { engine.settings with
          options := { options with render := { options.render with staticMarkup := static } } } }
  (engine.renderFragments (Script.Code.host {}) file.fragments bound).1.mapError .template

/-- What is reported of a template file: the placeholders and the tree. -/
def inspect (configPath : String) (config : Option Contents) (source : Contents)
    : Except CommandError Json := do
  let config ← loadConfig configPath config
  let engine ← config.engine.mapError .template
  let file ← loadTemplate source
  let settings := engine.settings
  let tree ←
    (Tree.parse settings.registry.resolver settings.options.read file.fragments).mapError
      .template
  .ok (.object [("placeholders", .array (file.placeholders.map .string)), ("tree", tree.toJson)])

end Command

end TaggedMarkup
