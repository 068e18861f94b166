import Mathlib.Tactic.Common
import BindingSync.Workspace.Files
import BindingSync.Workspace.Sandbox

/-!
# Reading in a sandbox

Reading leaves a sandbox as it is, so what is read is a function of the sandbox:
`Sandbox.statusAt` for what stands at a path, `Sandbox.textAt` for a text, `Sandbox.sourceAt` for a
binding file and `Sandbox.databaseAt` for a database.  A text that cannot be read is
a reported failure of the file system, or it ends the program: because no file can have the path, or
because the content is no text (`Sandbox.textAt_eq_crash_iff`).
-/

namespace BindingSync

namespace Sandbox

variable {sandbox : Sandbox} {path : Path} {crash : Crash}

/-- Two parts of a program run one after the other. -/
lemma run_bind {α β : Type} (part : StateM Sandbox α) (next : α → StateM Sandbox β)
    (sandbox : Sandbox) :
    (part >>= next).run sandbox = (next (part.run sandbox).1).run (part.run sandbox).2 :=
  rfl

/-- What stands at a path; nothing does if no file can have it. -/
def statusAt (sandbox : Sandbox) (path : Path) : Except Crash FileStatus :=
  if path.isUsable then (sandbox.status path).mapError FileError.crash else .ok .absent

lemma run_statusAt (sandbox : Sandbox) (path : Path) :
    (Host.statusAt path : StateM Sandbox _).run sandbox = (sandbox.statusAt path, sandbox) := by
  unfold Host.statusAt statusAt
  cases path.isUsable <;> rfl

lemma run_exists? (sandbox : Sandbox) (path : Path) :
    (Host.exists? path : StateM Sandbox _).run sandbox =
      ((sandbox.statusAt path).map (· != .absent), sandbox) := by
  rw [Host.exists?, run_bind, run_statusAt]
  rfl

/-- Reading a file changes nothing. -/
lemma run_read (sandbox : Sandbox) (path : Path) :
    (Host.read path : StateM Sandbox _).run sandbox = (sandbox.read path, sandbox) :=
  rfl

/-- The text that is read from a path. -/
def textAt (sandbox : Sandbox) (path : Path) : Except ReadError String :=
  if path.isUsable then
    match sandbox.read path with
    | .error error => .error (.file error)
    | .ok content =>
      match decodeText content with
      | some text => .ok text
      | none => .error (.crash .undecodable)
  else .error (.crash .unacceptable)

/-- Reading a text gives it and changes nothing. -/
lemma run_readText (sandbox : Sandbox) (path : Path) :
    (Host.readText path : StateM Sandbox _).run sandbox = (sandbox.textAt path, sandbox) := by
  unfold Host.readText textAt
  cases path.isUsable with
  | false => rfl
  | true =>
    rw [if_neg (by decide), if_pos rfl, run_bind, run_read]
    cases sandbox.read path with
    | error error => rfl
    | ok content =>
      dsimp only
      cases decodeText content <;> rfl

/-- Reading a text ends the program exactly if no file can have the path or the content is no
text. -/
lemma textAt_eq_crash_iff : sandbox.textAt path = .error (.crash crash) ↔
    (path.isUsable = false ∧ crash = .unacceptable) ∨
      path.isUsable = true ∧ crash = .undecodable ∧
        ∃ content, sandbox.read path = .ok content ∧ decodeText content = none := by
  unfold textAt
  cases path.isUsable with
  | false => simp [eq_comm]
  | true =>
    cases sandbox.read path with
    | error error => simp
    | ok content => cases hdecode : decodeText content <;> simp [hdecode, eq_comm]

/-- The binding file that is read from a path. -/
def sourceAt (sandbox : Sandbox) (path : Path) : Sync.Source where
  label := path.toString
  text := (sandbox.textAt path).mapError fun
    | .crash crash => .crash crash
    | .file error => .failed (.unreadable path.toString (error.describe path))

lemma run_source (sandbox : Sandbox) (path : Path) :
    (Workspace.source path : StateM Sandbox _).run sandbox = (sandbox.sourceAt path, sandbox) := by
  unfold Workspace.source sourceAt
  rw [run_bind, run_readText]
  dsimp only
  cases sandbox.textAt path with
  | ok text => rfl
  | error error => cases error <;> rfl

lemma run_sources (sandbox : Sandbox) (paths : List Path) :
    (Workspace.sources paths : StateM Sandbox _).run sandbox =
      (paths.map sandbox.sourceAt, sandbox) := by
  induction paths with
  | nil => rfl
  | cons path rest ih =>
    rw [Workspace.sources, run_bind, run_source, run_bind, ih]
    rfl

/-- The database in a file. -/
def databaseAt (sandbox : Sandbox) (path : Path) : Except LoadError Database :=
  match sandbox.textAt path with
  | .error (.file error) => .error (.reported (.unreadable path.toString (error.describe path)))
  | .error (.crash crash) => .error (.crash crash)
  | .ok text => Database.deserialize text

lemma run_load (sandbox : Sandbox) (path : Path) :
    (Database.load path : StateM Sandbox _).run sandbox = (sandbox.databaseAt path, sandbox) := by
  unfold Database.load databaseAt
  rw [run_bind, run_readText]
  dsimp only
  cases sandbox.textAt path with
  | ok text => rfl
  | error error => cases error <;> rfl

end Sandbox

end BindingSync
