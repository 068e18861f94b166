import BindingSync.Cli.Colour
import BindingSync.Cli.Command
import BindingSync.Workspace.Files

/-!
# The program

The commands are written for every host, for every library that reads YAML and for every one that
marks colours.  Errors are printed in red to the standard error and lead to exit code 1; wrong
arguments lead to exit code 2.  A database is saved when a synchronization is through, and also when
it was aborted, but not when it failed.
-/

namespace BindingSync.Cli

open BindingSync.Text
open BindingSync.Binding

/-- How a run of the program ends. -/
inductive Ending where
  | exit (code : Nat)
  | crash (crash : Crash)
deriving DecidableEq, Repr, Inhabited

variable {m : Type → Type} [Monad m] [Host m] [Yaml.Loader] [Painter]

/-- Prints an error. -/
def printFault (message : String) : m Unit :=
  Host.printError (Painter.paint .red s!"Error: {message}" ++ "\n")

/-- Prints an error and ends the run. -/
def fail {α : Type} (message : String) : ExceptT Ending m α := do
  printFault message
  throw (.exit 1)

/-- Goes on with a result, or ends the run with the wording of what is wrong. -/
def orFail {ε α : Type} (message : ε → String) : Except ε α → ExceptT Ending m α
  | .ok value => return value
  | .error error => fail (message error)

/-- Ends the run with a crash, if there is one. -/
def orCrash {α : Type} : Except Crash α → ExceptT Ending m α
  | .ok value => return value
  | .error crash => throw (.crash crash)

/-- Goes on with what a part of a workspace is, or ends the run with what is wrong with it. -/
def orEnd {α : Type} (part : ExceptT WorkspaceFailure m α) : ExceptT Ending m α := do
  match ← part.run with
  | .ok value => return value
  | .error (.reported error) => fail error.message
  | .error (.crash crash) => throw (.crash crash)

/-! ### Targets -/

/-- The binding files that a target stands for. -/
structure Selection where
  config : WorkspaceConfig
  version : String
  files : List Path
deriving DecidableEq, Repr, Inhabited

/-- A text that is given and not empty. -/
def given? (text : Option String) : Option WideString :=
  (text.filter (· != "")).map .plain

/-- Finds the binding files of a target: what the target does not say is taken from the
configuration of the workspace.  A file without a name ends the run when its turn comes. -/
def select (target : Target) : ExceptT Ending m Selection := do
  let base ← Host.currentDirectory
  let directory := base.join (.ofString target.directory)
  if !directory.isUsable then throw (.crash .unacceptable)
  let directory := directory.normalized
  if !(← orCrash (← Host.isDirectory directory)) then
    fail (WorkspaceError.noDirectory directory).message
  let config ← orEnd (Workspace.loadConfig directory)
  let bindings := directory.join (.ofString (Path.nameOf config.bindingsDirectory))
  let versions ← orEnd (Workspace.discover bindings)
  let requested := (given? target.version).or config.version
  let version ← orFail WorkspaceError.message (Version.select versions requested)
  let names :=
    if target.files.isEmpty then config.targetFiles.map fun name => some (Path.nameOf name)
    else target.files
  let named := names.takeWhile Option.isSome
  let files ← orEnd (Workspace.resolveFiles bindings version (named.filterMap id))
  if named.length < names.length then throw (.crash .wrongKind)
  return { config, version, files }

/-! ### Checking -/

/-- Parses a binding file and says whether it is well-formed. -/
def checkFile (path : Path) : ExceptT Ending m Bool := do
  match ← Host.readText path with
  | .error (.crash crash) => throw (.crash crash)
  | .error (.file error) => do
    printFault s!"{path.name}: {error.describe path}"
    return false
  | .ok text =>
    match parse text with
    | .error error => do
      printFault s!"{path.name}: {error.message}"
      return false
    | .ok classes => do
      let functions := (classes.map fun cls => cls.functions.length).foldl (· + ·) 0
      Host.printLine s!"  {path.name}: {classes.length} class(es), {functions} function(s)"
      return true

/-- Parses binding files and says whether all of them are well-formed. -/
def checkFiles : List Path → ExceptT Ending m Bool
  | [] => return true
  | path :: rest => do
    let first ← checkFile path
    return first && (← checkFiles rest)

/-- Parses the binding files of a target. -/
def check (target : Target) : ExceptT Ending m Unit := do
  let selection ← select target
  let count := selection.files.length
  Host.printLine s!"Checking {count} binding file(s) for version {selection.version}..."
  if ← checkFiles selection.files then Host.printLine "No issues found."
  else throw (.exit 1)

/-! ### Synchronizing -/

/-- The decision that a line of input stands for. -/
def decisionOf? (line : String) : Option Decision :=
  match (strip line).toLower with
  | "b" => some .useIncoming
  | "d" => some .keepExisting
  | "c" => some .abort
  | _ => none

/-- Decides a conflict by a policy.  Who is asked and does not answer aborts. -/
def decide (policy : ConflictPolicy) (conflict : Conflict) : m (Option Decision) :=
  match policy with
  | .fixed decision => return some decision
  | .ask => do
    Host.printLine (Painter.paint .yellow conflict.describe)
    let answer ← Host.ask "Use Broma's value [b], keep the database's [d], or cancel [c]? "
      "Please answer b, d or c.\n" decisionOf?
    return some (answer.getD .abort)

/-- Prints lines one after the other. -/
def printLines : List String → m Unit
  | [] => return ()
  | line :: rest => do
    Host.printLine line
    printLines rest

/-- Prints what a synchronization has done. -/
def report (progress : Progress) : m Unit := do
  printLines (progress.added.map ("Added " ++ ·))
  printLines (progress.updated.map ("Updated " ++ ·))
  printLines (progress.warnings.map fun warning =>
    Painter.paint .yellow s!"Warning: {warning.message}")
  let added := progress.added.length
  let updated := progress.updated.length
  Host.printLine (Painter.paint .green
    s!"Added {added} functions & updated {updated} functions from Broma")

/-- The database at a path, or a new one. -/
def openDatabase (path : Path) (isNew : Bool) (imageBase : Option Int) :
    ExceptT Ending m Database := do
  if isNew then
    Host.printLine s!"Creating new database '{path.toString}'."
    return { imageBase }
  else
    match ← Database.load path with
    | .ok db => return db
    | .error (.reported error) => fail error.message
    | .error (.crash crash) => throw (.crash crash)

/-- Reports a synchronization that is through or was aborted, and saves its database. -/
def finish (path : Path) (progress : Progress) : ExceptT Ending m Unit := do
  report progress
  orCrash (← progress.db.save path)

/-- Synchronizes the binding files of a target into a database. -/
def sync (options : SyncOptions) : ExceptT Ending m Unit := do
  let selection ← select options.target
  let tag := (given? options.platform).getD selection.config.platform
  let platform ← match Platform.ofString? tag with
    | some platform => pure platform
    | none => fail (SyncError.unknownPlatform tag).message
  let path := Path.ofString options.database
  let isNew := !(← orCrash (← Host.exists? path))
  let db ← openDatabase path isNew options.imageBase
  let policy ← match options.onConflict with
    | some policy => pure policy
    | none => throw (.crash .wrongKind)
  let count := selection.files.length
  Host.printLine
    s!"Syncing {count} binding file(s) for version {selection.version} on {platform.name}..."
  let sources ← Workspace.sources selection.files
  let outcome ← (synchronize platform sources db).runM (decide policy)
  match outcome with
  | .done () progress => finish path progress
  | .stopped (.aborted location) progress => do
    finish path progress
    fail s!"{Stop.abortMessage location}. Changes made before the abort were kept."
  | .stopped (.failed error) _ => fail error.message
  | .stopped (.crash crash) _ => throw (.crash crash)

/-! ### Command lines -/

/-- Does what a command says. -/
def perform : Command → ExceptT Ending m Unit
  | .check target => check target
  | .sync options => sync options

/-- Runs the program with a list of arguments. -/
def run (arguments : List String) : m Ending := do
  match Command.ofArguments arguments with
  | .error (.help text) => do
    Host.print text
    return .exit 0
  | .error (.usage program message) => do
    Host.printError s!"{program}: error: {message}\n"
    return .exit 2
  | .ok command => do
    match ← (perform command).run with
    | .ok () => return .exit 0
    | .error ending => return ending

end BindingSync.Cli
