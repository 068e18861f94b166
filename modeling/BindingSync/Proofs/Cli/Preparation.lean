import BindingSync.Cli.Program
import BindingSync.Proofs.Workspace.Lifting

/-!
# What happens before a synchronization

A synchronization begins when its binding files, its platform, its database and its policy are there.
`Cli.prepare` gets all of them and says what is wrong if it cannot: an error of the workspace, of the
platform or of the database, or a fault that ends the program.  The program itself does not tell
these apart; it prints the error and ends.  `Cli.sync_eq` says that what the program does is this:
the preparation and the run behind it (`Cli.attempt`), whose failures are printed
(`Cli.reporting`), and then the end that the run asks for (`Cli.conclude`).
-/

namespace BindingSync.Cli

open ExceptT (lift_bind lift_pure)
open BindingSync.Text

section Programs

variable {m : Type → Type} [Monad m] [Host m] [Yaml.Loader] [Painter] {α β ε : Type}

/-! ### Failures -/

/-- Why a synchronization cannot begin. -/
inductive Failure where
  | workspace (error : WorkspaceError)
  | platform (error : SyncError)
  | database (error : DatabaseError)
  | crash (crash : Crash)

/-- How a failure ends the program. -/
def Failure.ending : Failure → Ending
  | .crash fault => .crash fault
  | _ => .exit 1

/-- Prints a failure and ends the run. -/
def close : Failure → ExceptT Ending m α
  | .workspace error => fail error.message
  | .platform error => fail error.message
  | .database error => fail error.message
  | .crash crash => throw (.crash crash)

/-- Prints what went wrong in a part, if something did. -/
def reporting (part : ExceptT Failure m α) : ExceptT Ending m α :=
  ExceptT.mk do
    match ← part.run with
    | .ok value => return .ok value
    | .error failure => (close failure).run

/-- Goes on with a result, or fails. -/
def orFailure (failure : ε → Failure) : Except ε α → ExceptT Failure m α
  | .ok value => return value
  | .error error => throw (failure error)

/-- Goes on with what a part of a workspace is, or fails with what is wrong with it. -/
def ofWorkspace (part : ExceptT WorkspaceFailure m α) : ExceptT Failure m α := do
  match ← part.run with
  | .ok value => return value
  | .error (.reported error) => throw (.workspace error)
  | .error (.crash crash) => throw (.crash crash)

/-! ### The preparation -/

/-- The binding files of a target in a workspace whose directory is there. -/
def chooseIn (target : Target) (directory : Path) : ExceptT Failure m Selection := do
  let config ← ofWorkspace (Workspace.loadConfig directory)
  let bindings := directory.join (.ofString (Path.nameOf config.bindingsDirectory))
  let versions ← ofWorkspace (Workspace.discover bindings)
  let requested := (given? target.version).or config.version
  let version ← orFailure .workspace (Version.select versions requested)
  let names :=
    if target.files.isEmpty then config.targetFiles.map fun name => some (Path.nameOf name)
    else target.files
  let named := names.takeWhile Option.isSome
  let files ← ofWorkspace (Workspace.resolveFiles bindings version (named.filterMap id))
  if named.length < names.length then throw (.crash .wrongKind)
  else return { config, version, files }

/-- The binding files of a target. -/
def choose (target : Target) : ExceptT Failure m Selection := do
  let base ← Host.currentDirectory
  let directory := base.join (.ofString target.directory)
  if directory.isUsable then
    let directory := directory.normalized
    if ← orFailure .crash (← Host.isDirectory directory) then chooseIn target directory
    else throw (.workspace (.noDirectory directory))
  else throw (.crash .unacceptable)

/-- The platform that is asked for. -/
def choosePlatform (tag : WideString) : ExceptT Failure m Platform :=
  match Platform.ofString? tag with
  | some platform => return platform
  | none => throw (.platform (.unknownPlatform tag))

/-- The database at a path, or a new one. -/
def obtainDatabase (path : Path) (isNew : Bool) (imageBase : Option Int) :
    ExceptT Failure m Database := do
  if isNew then
    Host.printLine s!"Creating new database '{path.toString}'."
    return { imageBase }
  else
    match ← Database.load path with
    | .ok db => return db
    | .error (.reported error) => throw (.database error)
    | .error (.crash crash) => throw (.crash crash)

/-- The policy that is asked for. -/
def choosePolicy (policy : Option ConflictPolicy) : ExceptT Failure m ConflictPolicy :=
  match policy with
  | some policy => return policy
  | none => throw (.crash .wrongKind)

/-- What a synchronization begins with. -/
structure Prepared where
  platform : Platform
  db : Database
  policy : ConflictPolicy
  files : List Sync.Source

/-- Gets everything that a synchronization begins with. -/
def prepare (options : SyncOptions) : ExceptT Failure m Prepared := do
  let selection ← choose options.target
  let platform ← choosePlatform ((given? options.platform).getD selection.config.platform)
  let path := Path.ofString options.database
  let isNew := !(← orFailure .crash (← Host.exists? path))
  let db ← obtainDatabase path isNew options.imageBase
  let policy ← choosePolicy options.onConflict
  let count := selection.files.length
  Host.printLine
    s!"Syncing {count} binding file(s) for version {selection.version} on {platform.name}..."
  let files ← Workspace.sources selection.files
  return { platform, db, policy, files }

/-- The run, with whoever decides its conflicts. -/
def engine (prepared : Prepared) : m (Outcome Unit) :=
  (synchronize prepared.platform prepared.files prepared.db).runM (decide prepared.policy)

/-- Prepares a run and carries it out. -/
def attempt (options : SyncOptions) : ExceptT Failure m (Prepared × Outcome Unit) := do
  let prepared ← prepare options
  let outcome ← ExceptT.lift (engine prepared)
  return (prepared, outcome)

/-- Ends the program as the run asks for. -/
def conclude (path : Path) : Outcome Unit → ExceptT Ending m Unit
  | .done () progress => finish path progress
  | .stopped (.aborted location) progress => do
    finish path progress
    fail s!"{Stop.abortMessage location}. Changes made before the abort were kept."
  | .stopped (.failed error) _ => fail error.message
  | .stopped (.crash crash) _ => throw (.crash crash)

end Programs

/-! ### Failures that are printed -/

section Reporting

variable {m : Type → Type} [Monad m] [LawfulMonad m] [Host m] [Painter] {α β ε : Type}

omit [Host m] [Painter] in
/-- Nothing is done behind an ending. -/
lemma throw_bind (ending : Ending) (next : α → ExceptT Ending m β) :
    (throw ending : ExceptT Ending m α) >>= next = throw ending := by
  apply ExceptT.ext
  simp

lemma fail_bind (message : String) (next : α → ExceptT Ending m β) :
    (fail message : ExceptT Ending m α) >>= next = fail message := by
  rw [fail, bind_assoc, fail]
  exact bind_congr fun _ => throw_bind (.exit 1) next

/-- Nothing is done behind a failure. -/
lemma close_bind (failure : Failure) (next : α → ExceptT Ending m β) :
    close failure >>= next = close failure := by
  cases failure with
  | crash crash => exact throw_bind (.crash crash) next
  | _ => exact fail_bind _ next

lemma reporting_pure (a : α) : reporting (pure a : ExceptT Failure m α) = pure a := by
  apply ExceptT.ext
  simp [reporting]

lemma reporting_throw (failure : Failure) :
    reporting (throw failure : ExceptT Failure m α) = close failure := by
  apply ExceptT.ext
  simp [reporting]

/-- Two parts in a row are reported on one after the other. -/
lemma reporting_bind (part : ExceptT Failure m α) (next : α → ExceptT Failure m β) :
    reporting (part >>= next) = reporting part >>= fun a => reporting (next a) := by
  apply ExceptT.ext
  simp only [reporting, ExceptT.run_mk, ExceptT.run_bind, bind_assoc]
  congr
  funext result
  cases result with
  | ok a => simp
  | error failure =>
    have hclose := congrArg ExceptT.run (close_bind failure fun a => reporting (next a))
    rw [ExceptT.run_bind] at hclose
    simpa [reporting] using hclose.symm

/-- What cannot fail is not reported on. -/
lemma reporting_lift (part : m α) :
    reporting (ExceptT.lift part : ExceptT Failure m α) = ExceptT.lift part := by
  apply ExceptT.ext
  simp [reporting]

lemma reporting_orFailure_crash (result : Except Crash α) :
    reporting (orFailure .crash result : ExceptT Failure m α) = orCrash result := by
  cases result with
  | ok value => exact reporting_pure value
  | error crash => exact reporting_throw (.crash crash)

lemma reporting_orFailure_workspace (result : Except WorkspaceError α) :
    reporting (orFailure .workspace result : ExceptT Failure m α) =
      orFail WorkspaceError.message result := by
  cases result with
  | ok value => exact reporting_pure value
  | error error => exact reporting_throw (.workspace error)

lemma reporting_ofWorkspace (part : ExceptT WorkspaceFailure m α) :
    reporting (ofWorkspace part) = orEnd part := by
  rw [ofWorkspace, orEnd, reporting_bind]
  congr 1
  · exact reporting_lift part.run
  · funext result
    match result with
    | .ok value => exact reporting_pure value
    | .error (.reported error) => exact reporting_throw (.workspace error)
    | .error (.crash crash) => exact reporting_throw (.crash crash)

omit [LawfulMonad m] in
/-- What is done on a condition is reported on. -/
lemma reporting_ite (condition : Prop) [Decidable condition] (part other : ExceptT Failure m α) :
    reporting (if condition then part else other) =
      if condition then reporting part else reporting other :=
  apply_ite reporting condition part other

lemma reporting_throw_crash (crash : Crash) :
    reporting (throw (.crash crash) : ExceptT Failure m α) = throw (.crash crash) :=
  reporting_throw (.crash crash)

lemma reporting_throw_workspace (error : WorkspaceError) :
    reporting (throw (.workspace error) : ExceptT Failure m α) = fail error.message :=
  reporting_throw (.workspace error)

lemma reporting_throw_platform (error : SyncError) :
    reporting (throw (.platform error) : ExceptT Failure m α) = fail error.message :=
  reporting_throw (.platform error)

lemma reporting_currentDirectory :
    reporting (Host.currentDirectory : ExceptT Failure m Path) = Host.currentDirectory :=
  reporting_lift Host.currentDirectory

lemma reporting_printLine (text : String) :
    reporting (Host.printLine text : ExceptT Failure m Unit) = Host.printLine text :=
  reporting_lift (Host.printLine text)

lemma reporting_isDirectory (path : Path) :
    reporting (Host.isDirectory path : ExceptT Failure m _) = Host.isDirectory path := by
  rw [← Host.lift_isDirectory, reporting_lift, Host.lift_isDirectory]

lemma reporting_exists? (path : Path) :
    reporting (Host.exists? path : ExceptT Failure m _) = Host.exists? path := by
  rw [← Host.lift_exists?, reporting_lift, Host.lift_exists?]

lemma reporting_sources (paths : List Path) :
    reporting (Workspace.sources paths : ExceptT Failure m _) = Workspace.sources paths := by
  rw [← Workspace.lift_sources, reporting_lift, Workspace.lift_sources]

/-- A selection is a choice with its failures printed. -/
lemma select_eq [Yaml.Loader] (target : Target) :
    select target = reporting (choose target : ExceptT Failure m _) := by
  simp only [select, choose, chooseIn, reporting_bind, reporting_currentDirectory, reporting_ite,
    reporting_throw_crash, reporting_throw_workspace, reporting_isDirectory,
    reporting_ofWorkspace, reporting_pure, reporting_orFailure_crash,
    reporting_orFailure_workspace, throw_bind, fail_bind]
  refine bind_congr fun base => ?_
  cases (base.join (Path.ofString target.directory)).isUsable with
  | false => rfl
  | true =>
    refine bind_congr fun status => bind_congr fun found => ?_
    cases found with
    | false => rfl
    | true => rfl

lemma reporting_choosePlatform (tag : WideString) :
    reporting (choosePlatform tag : ExceptT Failure m _) =
      match Platform.ofString? tag with
      | some platform => pure platform
      | none => fail (SyncError.unknownPlatform tag).message := by
  unfold choosePlatform
  cases Platform.ofString? tag with
  | some platform => exact reporting_pure platform
  | none => exact reporting_throw_platform (.unknownPlatform tag)

lemma openDatabase_eq (path : Path) (isNew : Bool) (imageBase : Option Int) :
    openDatabase path isNew imageBase =
      reporting (obtainDatabase path isNew imageBase : ExceptT Failure m _) := by
  unfold openDatabase obtainDatabase
  rw [reporting_ite]
  congr 1
  · rw [reporting_bind, reporting_printLine]
    simp only [reporting_pure]
  · rw [reporting_bind, ← Database.lift_load, ← Database.lift_load, reporting_lift]
    congr 1
    funext result
    match result with
    | .ok db => exact (reporting_pure db).symm
    | .error (.reported error) => exact (reporting_throw (.database error)).symm
    | .error (.crash crash) => exact (reporting_throw_crash crash).symm

lemma reporting_choosePolicy (policy : Option ConflictPolicy) :
    reporting (choosePolicy policy : ExceptT Failure m _) =
      match policy with
      | some policy => pure policy
      | none => throw (.crash .wrongKind) := by
  cases policy with
  | some policy => exact reporting_pure policy
  | none => exact reporting_throw_crash .wrongKind

/-! ### The run -/

lemma lift_decide (policy : ConflictPolicy) (conflict : Conflict) :
    (ExceptT.lift (decide policy conflict : m _) : ExceptT ε m _) = decide policy conflict := by
  cases policy with
  | fixed decision => exact lift_pure _
  | ask =>
    unfold decide
    dsimp only
    rw [lift_bind, lift_bind]
    simp only [lift_pure]
    rfl

/-- A dialogue is led behind the possibility to end early as it is without it. -/
lemma lift_runM (dialogue : Dialogue α) (policy : ConflictPolicy) :
    (ExceptT.lift (dialogue.runM (decide policy : Conflict → m _)) : ExceptT ε m _) =
      dialogue.runM (decide policy) := by
  induction dialogue with
  | done value => exact lift_pure value
  | ask conflict next ih => simp only [Dialogue.runM, lift_bind, lift_decide, ih]

/-- A run that is prepared ends the program as it asks for. -/
lemma conclude_engine (path : Path) (prepared : Prepared) : (do
      let outcome ← (synchronize prepared.platform prepared.files prepared.db).runM
        (decide prepared.policy)
      match outcome with
      | .done () progress => finish path progress
      | .stopped (.aborted location) progress => do
        finish path progress
        fail s!"{Stop.abortMessage location}. Changes made before the abort were kept."
      | .stopped (.failed error) _ => fail error.message
      | .stopped (.crash crash) _ => throw (.crash crash) : ExceptT Ending m Unit) = (do
      let outcome ← ExceptT.lift (engine prepared)
      conclude path outcome) := by
  rw [engine, lift_runM]
  refine bind_congr fun outcome => ?_
  match outcome with
  | .done () progress => rfl
  | .stopped (.aborted location) progress => rfl
  | .stopped (.failed error) progress => rfl
  | .stopped (.crash crash) progress => rfl

/-- A synchronization prepares a run and carries it out, says so if it could not, and concludes. -/
theorem sync_eq [Yaml.Loader] (options : SyncOptions) :
    sync options = (do
      let attempted ← reporting (attempt options)
      conclude (.ofString options.database) attempted.2 : ExceptT Ending m Unit) := by
  simp only [sync, attempt, prepare, reporting_bind, select_eq, reporting_choosePlatform,
    reporting_orFailure_crash, reporting_exists?, openDatabase_eq, reporting_choosePolicy,
    reporting_printLine, reporting_sources, reporting_lift, reporting_pure, bind_assoc, pure_bind]
  refine bind_congr fun selection => ?_
  cases Platform.ofString? ((given? options.platform).getD selection.config.platform) with
  | none => rw [fail_bind, fail_bind]
  | some platform =>
    dsimp only
    rw [pure_bind]
    refine bind_congr fun status => bind_congr fun found => bind_congr fun db => ?_
    cases options.onConflict with
    | none => rw [throw_bind, throw_bind]
    | some policy =>
      dsimp only
      rw [pure_bind]
      exact bind_congr fun _ => bind_congr fun files =>
        conclude_engine (.ofString options.database) { platform, db, policy, files }

end Reporting

end BindingSync.Cli
