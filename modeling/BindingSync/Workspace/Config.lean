import BindingSync.Workspace.Error
import BindingSync.Yaml.Document

/-!
# Workspace configurations

A workspace may have a configuration: a YAML mapping that names the directory of the bindings,
the binding files, the platform and the version.  Every field may be left out.  Unknown fields
are reported together and in order; keys that have no order among one another end the program.
-/

namespace BindingSync

open BindingSync.Numeral (Binary64)
open BindingSync.Text
open BindingSync.Yaml (Atom Document Value)

/-- The configuration of a workspace. -/
structure WorkspaceConfig where
  /-- The directory that holds one directory per version. -/
  bindingsDirectory : WideString := "bindings"
  /-- The binding files, in the order of their synchronization. -/
  targetFiles : List WideString := ["Cocos2d.bro", "GeometryDash.bro"]
  platform : WideString := "win"
  /-- Without a version the newest one is used. -/
  version : Option WideString := none
deriving DecidableEq, Repr, Inhabited

/-- A failure of a workspace: one that is reported, or one that ends the program. -/
inductive WorkspaceFailure where
  | reported (error : WorkspaceError)
  | crash (crash : Crash)
deriving DecidableEq, Repr, Inhabited

namespace WorkspaceConfig

/-- The name of the configuration file. -/
def fileName : String := ".bromasync.yaml"

/-- The fields of a configuration. -/
def knownFields : List String :=
  ["bindings-directory", "target-files", "platform", "version"]

/-- The pairs of a mapping. -/
abbrev Pairs := List (Atom × Value)

/-- The value of a field. -/
def field? (pairs : Pairs) (name : String) : Option Value :=
  (pairs.find? fun pair => pair.1.same (.text name)).map Prod.snd

/-- The key is that of a field. -/
def isKnown (key : Atom) : Bool :=
  knownFields.any fun name => key.same (.text name)

/-- Puts a key in front of the first one that is not below it. -/
def insertKey (key : Atom) : List Atom → Option (List Atom)
  | [] => some [key]
  | first :: rest => do
    if ← first.lt? key then return first :: (← insertKey key rest)
    else return key :: first :: rest

/-- Keys in order, if there is an order between any two of them. -/
def sortKeys : List Atom → Option (List Atom)
  | [] => some []
  | key :: rest => do
    let sorted ← sortKeys rest
    if sorted.all fun other => (key.lt? other).isSome then insertKey key sorted
    else none

/-- A failure that is reported. -/
def report {α : Type} (error : WorkspaceError) : Except WorkspaceFailure α :=
  .error (.reported error)

/-- A text, or the end of the program because it would be too long. -/
def orUnacceptable {α : Type} : Option α → Except WorkspaceFailure α
  | some value => .ok value
  | none => .error (.crash .unacceptable)

/-- Reports the keys that are no fields, if there are any. -/
def checkKeys (label : String) (pairs : Pairs) : Except WorkspaceFailure Unit :=
  match sortKeys ((pairs.map Prod.fst).filter (!isKnown ·)) with
  | none => .error (.crash .wrongKind)
  | some [] => .ok ()
  | some unknown => do
    report (.unknownFields label (← orUnacceptable (unknown.mapM Atom.describe?)))

/-- A field that is a text. -/
def textField (label : String) (pairs : Pairs) (name : String) (default : WideString) :
    Except WorkspaceFailure WideString :=
  match field? pairs name with
  | none => .ok default
  | some (.atom (.text value)) => .ok value
  | some _ => report (.notAText label name)

/-- The version, which may be written as a number. -/
def versionField (label : String) (pairs : Pairs) :
    Except WorkspaceFailure (Option WideString) :=
  match field? pairs "version" with
  | none => .ok none
  | some (.atom (.text value)) => .ok (some value)
  | some (.atom (.int value)) => do
    return some (.plain (← orUnacceptable (Integer.render? value)))
  | some (.atom (.float value)) => .ok (some (.plain value.render))
  | some (.atom (.noNumber _)) => .ok (some (.plain Binary64.nan.render))
  | some _ => report (.notAText label "version")

/-- The text of a value that is one. -/
def text? : Value → Option WideString
  | .atom (.text value) => some value
  | _ => none

/-- The names of the binding files, of which there is at least one. -/
def filesField (label : String) (document : Document) (pairs : Pairs) (default : List WideString) :
    Except WorkspaceFailure (List WideString) :=
  match field? pairs "target-files" with
  | none => .ok default
  | some value =>
    match document.collection? value with
    | some (.list items) =>
      match items.mapM text? with
      | none => report (.badTargetFiles label)
      | some [] => report (.noTargetFiles label)
      | some names => .ok names
    | some (.pairs []) => report (.noTargetFiles label)
    | _ => report (.badTargetFiles label)

/-- The configuration of a mapping of a document. -/
def ofPairs (label : String) (document : Document) (pairs : Pairs) :
    Except WorkspaceFailure WorkspaceConfig := do
  checkKeys label pairs
  let default : WorkspaceConfig := {}
  let bindingsDirectory ← textField label pairs "bindings-directory" default.bindingsDirectory
  let platform ← textField label pairs "platform" default.platform
  let version ← versionField label pairs
  let targetFiles ← filesField label document pairs default.targetFiles
  return { bindingsDirectory, targetFiles, platform, version }

/-- The configuration of a document. -/
def ofDocument (label : String) (document : Document) :
    Except WorkspaceFailure WorkspaceConfig :=
  if document.root = .atom .null then .ok {}
  else
    match document.collection? document.root with
    | some (.mapping pairs) => ofPairs label document pairs
    | _ => report (.notAMapping label)

/-- The configuration of a text; the label stands for it in messages. -/
def parse [Yaml.Loader] (text label : String) : Except WorkspaceFailure WorkspaceConfig :=
  match Yaml.Loader.load text with
  | .error (.crash crash) => .error (.crash crash)
  | .error (.invalid reason) => report (.invalidYaml label reason)
  | .ok document => ofDocument label document

end WorkspaceConfig

end BindingSync
