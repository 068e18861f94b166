import BindingSync.Database.Persistence
import BindingSync.Sync.Run
import BindingSync.Workspace.Config
import BindingSync.Workspace.Host
import BindingSync.Workspace.Version

/-!
# The files of a workspace

A workspace is a directory with a configuration file, which may be missing, and a directory
of bindings that holds one directory per version.  A database is a file of its own.
-/

namespace BindingSync

namespace Workspace

variable {m : Type → Type} [Monad m] [Host m]

/-- Goes on with a result, or ends with a crash. -/
def orCrash {α : Type} : Except Crash α → ExceptT WorkspaceFailure m α
  | .ok value => return value
  | .error crash => throw (.crash crash)

/-- The configuration of a workspace; without a file for it, all fields have their defaults. -/
def loadConfig [Yaml.Loader] (directory : Path) :
    ExceptT WorkspaceFailure m WorkspaceConfig := do
  let path := directory.child WorkspaceConfig.fileName
  if ← orCrash (← Host.exists? path) then
    match ← Host.readText path with
    | .error (.file error) => throw (.reported (.unreadableConfig (error.describe path)))
    | .error (.crash crash) => throw (.crash crash)
    | .ok text => ExceptT.mk (pure (WorkspaceConfig.parse text path.toString))
  else return {}

/-- The names that belong to directories and are not hidden. -/
def versionNames (bindings : Path) : List String → ExceptT WorkspaceFailure m (List String)
  | [] => return []
  | name :: rest => do
    let isVersion ← orCrash (← Host.isDirectory (bindings.join { parts := [name] }))
    let others ← versionNames bindings rest
    return if isVersion && name.toList.head? != some '.' then name :: others else others

/-- The versions of a directory of bindings, the oldest first. -/
def discover (bindings : Path) : ExceptT WorkspaceFailure m (List String) := do
  if ← orCrash (← Host.isDirectory bindings) then
    return Version.sort (← versionNames bindings (← Host.names bindings))
  else throw (.reported (.noBindings bindings))

/-- The paths of binding files of a version, in order. -/
def resolveFiles (bindings : Path) (version : String) :
    List String → ExceptT WorkspaceFailure m (List Path)
  | [] => return []
  | name :: rest => do
    let path := (bindings.child version).child name
    if ← orCrash (← Host.isFile path) then
      return path :: (← resolveFiles bindings version rest)
    else throw (.reported (.noBindingFile name version path))

/-- The binding file at a path, with the reason why it cannot be read if that is so. -/
def source (path : Path) : m Sync.Source := do
  match ← Host.readText path with
  | .ok text => return ⟨path.toString, .ok text⟩
  | .error (.crash crash) => return ⟨path.toString, .error (.crash crash)⟩
  | .error (.file error) =>
    return ⟨path.toString, .error (.failed (.unreadable path.toString (error.describe path)))⟩

/-- The binding files at paths. -/
def sources : List Path → m (List Sync.Source)
  | [] => return []
  | path :: rest => do
    let first ← source path
    return first :: (← sources rest)

end Workspace

namespace Database

variable {m : Type → Type} [Monad m] [Host m]

/-- The database in a file. -/
def load (path : Path) : m (Except LoadError Database) := do
  match ← Host.readText path with
  | .error (.file error) =>
    return .error (.reported (.unreadable path.toString (error.describe path)))
  | .error (.crash crash) => return .error (.crash crash)
  | .ok text => return deserialize text

/-- Writes a database to a file and creates the directories around it, before it turns out
whether the database can be written. -/
def save (db : Database) (path : Path) : m (Except Crash Unit) := do
  match ← Host.ensureParent path with
  | .error crash => return .error crash
  | .ok () =>
    match db.serialize? with
    | some text => Host.writeText path text
    | none => return .error .unacceptable

end Database

end BindingSync
