import Mathlib.Control.Lawful
import Mathlib.Tactic.Common
import BindingSync.Workspace.Files

/-!
# Surroundings of programs that may end early

A program that may end early has the surroundings of the monad in which it runs.  So what it does
there is what is done without the possibility to end early, lifted: `ExceptT.lift` commutes with
every operation that is made of those of a host.
-/

namespace BindingSync

open ExceptT (lift_bind lift_pure)

variable {m : Type → Type} [Monad m] [LawfulMonad m] [Host m] {ε : Type}

namespace Host

lemma lift_statusAt (path : Path) :
    (ExceptT.lift (statusAt path : m _) : ExceptT ε m _) = statusAt path := by
  unfold statusAt
  split
  · rw [lift_bind]
    simp only [lift_pure]
    rfl
  · exact lift_pure _

lemma lift_isDirectory (path : Path) :
    (ExceptT.lift (isDirectory path : m _) : ExceptT ε m _) = isDirectory path := by
  simp only [isDirectory, lift_bind, lift_pure, lift_statusAt]

lemma lift_isFile (path : Path) :
    (ExceptT.lift (isFile path : m _) : ExceptT ε m _) = isFile path := by
  simp only [isFile, lift_bind, lift_pure, lift_statusAt]

lemma lift_exists? (path : Path) :
    (ExceptT.lift (exists? path : m _) : ExceptT ε m _) = exists? path := by
  simp only [exists?, lift_bind, lift_pure, lift_statusAt]

lemma lift_readText (path : Path) :
    (ExceptT.lift (readText path : m _) : ExceptT ε m _) = readText path := by
  unfold readText
  split
  · exact lift_pure _
  · rw [lift_bind]
    congr 1
    funext result
    cases result with
    | error error => exact lift_pure _
    | ok content =>
      dsimp only
      cases decodeText content <;> exact lift_pure _

lemma lift_ensureDirectory (path : Path) :
    (ExceptT.lift (ensureDirectory path : m _) : ExceptT ε m _) = ensureDirectory path := by
  unfold ensureDirectory
  rw [lift_bind]
  congr 1
  funext result
  split
  · exact lift_pure _
  · rw [lift_bind, lift_isDirectory]
    congr 1
    funext found
    split
    · exact lift_pure _
    · exact lift_pure _
  · exact lift_pure _

lemma lift_ensureDirectories (steps : Nat) (path : Path) :
    (ExceptT.lift (ensureDirectories steps path : m _) : ExceptT ε m _) =
      ensureDirectories steps path := by
  induction steps generalizing path with
  | zero => exact lift_ensureDirectory path
  | succ steps ih =>
    rw [ensureDirectories, ensureDirectories, lift_bind, lift_ensureDirectory]
    congr 1
    funext result
    split
    · split
      · exact lift_pure _
      · rw [lift_bind, ih]
        congr 1
        funext result
        cases result with
        | error error => exact lift_pure _
        | ok _ => exact lift_ensureDirectory path
    · exact lift_pure _

lemma lift_ensureParent (path : Path) :
    (ExceptT.lift (ensureParent path : m _) : ExceptT ε m _) = ensureParent path := by
  unfold ensureParent
  split
  · exact lift_pure _
  · simp only [lift_bind, lift_pure, lift_ensureDirectories]

lemma lift_writeText (path : Path) (text : String) :
    (ExceptT.lift (writeText path text : m _) : ExceptT ε m _) = writeText path text := by
  unfold writeText
  split
  · exact lift_pure _
  · simp only [lift_bind, lift_pure]
    rfl

end Host

namespace Workspace

lemma lift_source (path : Path) :
    (ExceptT.lift (source path : m _) : ExceptT ε m _) = source path := by
  unfold source
  rw [lift_bind, Host.lift_readText]
  congr 1
  funext result
  match result with
  | .ok text => exact lift_pure _
  | .error (.crash crash) => exact lift_pure _
  | .error (.file error) => exact lift_pure _

lemma lift_sources (paths : List Path) :
    (ExceptT.lift (sources paths : m _) : ExceptT ε m _) = sources paths := by
  induction paths with
  | nil => exact lift_pure _
  | cons path rest ih =>
    simp only [sources, lift_bind, lift_pure, lift_source, ih]

end Workspace

namespace Database

lemma lift_load (path : Path) :
    (ExceptT.lift (load path : m _) : ExceptT ε m _) = load path := by
  unfold load
  rw [lift_bind, Host.lift_readText]
  congr 1
  funext result
  match result with
  | .ok text => exact lift_pure _
  | .error (.crash crash) => exact lift_pure _
  | .error (.file error) => exact lift_pure _

lemma lift_save (db : Database) (path : Path) :
    (ExceptT.lift (save db path : m _) : ExceptT ε m _) = save db path := by
  unfold save
  rw [lift_bind, Host.lift_ensureParent]
  congr 1
  funext result
  cases result with
  | error crash => exact lift_pure _
  | ok _ =>
    dsimp only
    cases db.serialize? with
    | some text => exact Host.lift_writeText path text
    | none => exact lift_pure _

end Database

end BindingSync
