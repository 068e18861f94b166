import BindingSync.Text.Quoted
import BindingSync.Workspace.Path

/-!
# What is wrong with a workspace
-/

namespace BindingSync

open BindingSync.Text

/-- Why a workspace cannot be used. -/
inductive WorkspaceError where
  | noDirectory (path : Path)
  /-- The configuration file cannot be read; the wording says why. -/
  | unreadableConfig (reason : String)
  /-- The configuration is no YAML document; the wording says why. -/
  | invalidYaml (label reason : String)
  | notAMapping (label : String)
  /-- Fields that no configuration has, in their order and in the form for messages. -/
  | unknownFields (label : String) (fields : List String)
  | notAText (label field : String)
  | badTargetFiles (label : String)
  | noTargetFiles (label : String)
  | noBindings (path : Path)
  | noVersions
  | unknownVersion (requested : WideString) (available : List String)
  | noBindingFile (name version : String) (path : Path)
deriving DecidableEq, Repr, Inhabited

namespace WorkspaceError

/-- The wording of an error. -/
def message : WorkspaceError → String
  | noDirectory path => s!"directory '{path.toString}' does not exist."
  | unreadableConfig reason => s!"Cannot read workspace config file: {reason}"
  | invalidYaml label reason => s!"Invalid YAML in {label}: {reason}"
  | notAMapping label => s!"{label}: workspace config must be a YAML mapping"
  | unknownFields label fields =>
    let names := ", ".intercalate fields
    s!"{label}: unknown field(s) {names}"
  | notAText label field => s!"{label}: '{field}' must be a string"
  | badTargetFiles label => s!"{label}: 'target-files' must be a list of strings"
  | noTargetFiles label => s!"{label}: 'target-files' must not be empty"
  | noBindings path => s!"Bindings directory '{path.toString}' does not exist"
  | noVersions => "No binding versions found"
  | unknownVersion requested available =>
    let known := ", ".intercalate available
    s!"Unknown version {quoted requested} (available: {known})"
  | noBindingFile name version path =>
    s!"Binding file '{name}' not found for version {version} (expected '{path.toString}')"

end WorkspaceError

end BindingSync
