import BindingSync.Proofs.Cli.Keeping
import BindingSync.Proofs.Workspace.DatabaseFile

/-!
# Databases that are refused

A synchronization does not begin if its database is refused.  `Database.Refused` lists what is wrong
with the file then: it cannot be read, it is no JSON or no object, it has another version, or one
of its entries is at fault.  If the values in the file are of the types that are written
(`Sandbox.HoldsTyped`), what is reported is really wrong with it (`Cli.refused_of_prepare`).

Only the opening of the database fails with an error of the database.  This is said for each part of
a preparation by the errors with which it may fail (`Sandbox.FailsWithin`).
-/

namespace BindingSync

/-- If the file at a path is JSON, its values are of the types that are written. -/
def Sandbox.HoldsTyped (sandbox : Sandbox) (path : Path) : Prop :=
  ∀ text document, sandbox.textAt path = .ok text → Json.parse text = .ok document →
    Document.IsTyped document

namespace Database

/-- What is wrong with the file at a path that is refused as a database. -/
inductive Refused (sandbox : Sandbox) (path : Path) : DatabaseError → Prop
  | unreadable {error : FileError} (hread : sandbox.textAt path = .error (.file error)) :
      Refused sandbox path (.unreadable path.toString (error.describe path))
  | notJson {text : String} {error : Json.SyntaxError} (htext : sandbox.textAt path = .ok text)
      (hparse : Json.parse text = .error error) :
      Refused sandbox path (.invalidJson (error.message text.toList))
  | notAnObject {text : String} {document : Json} (htext : sandbox.textAt path = .ok text)
      (hparse : Json.parse text = .ok document) (hshape : ∀ fields, document ≠ .object fields) :
      Refused sandbox path .notAnObject
  | otherVersion {text : String} {document : Json} (htext : sandbox.textAt path = .ok text)
      (hparse : Json.parse text = .ok document)
      (hversion : Document.field? document "v" ≠ some (.string formatVersion)) :
      Refused sandbox path
        (.unsupportedVersion ((Document.field? document "v").getD .null))
  | malformed {text : String} {document : Json} {fault : EntryFault}
      (htext : sandbox.textAt path = .ok text) (hparse : Json.parse text = .ok document)
      (hversion : Document.field? document "v" = some (.string formatVersion))
      (hcheck : Document.check document = .error (.fault fault)) :
      Refused sandbox path (.malformed fault)
  | duplicate {text : String} {document : Json} {error : DuplicateError}
      (htext : sandbox.textAt path = .ok text) (hparse : Json.parse text = .ok document)
      (hversion : Document.field? document "v" = some (.string formatVersion))
      (hcheck : Document.check document = .error (.duplicate error)) :
      Refused sandbox path (.duplicate error)

section Files

variable {sandbox : Sandbox} {path : Path} {text : String} {document : Json} {error : DatabaseError}

/-- A document is refused for what is wrong with it. -/
lemma refused_of_ofDocument (htext : sandbox.textAt path = .ok text)
    (hparse : Json.parse text = .ok document) (htyped : Document.IsTyped document)
    (h : ofDocument document = .error (.reported error)) : Refused sandbox path error := by
  cases document with
  | object fields =>
    rw [ofDocument] at h
    split at h
    · next hright =>
      have hversion := hasVersion_iff.1 hright
      cases hdatabase : Document.toDatabase? (.object fields) with
      | some db =>
        rw [hdatabase] at h
        cases h
      | none =>
        have hcheck := htyped.check_eq_error hdatabase
        rw [hdatabase] at h
        cases hfirst : Document.firstError (.object fields) with
        | fault fault =>
          rw [hfirst] at h hcheck
          cases h
          exact .malformed htext hparse hversion hcheck
        | duplicate found =>
          rw [hfirst] at h hcheck
          cases h
          exact .duplicate htext hparse hversion hcheck
        | noMember =>
          rw [hfirst] at h
          cases h
    · next hwrong =>
      cases h
      exact .otherVersion htext hparse (hasVersion_iff.not.1 hwrong)
  | _ =>
    cases h
    exact .notAnObject htext hparse (by simp)

/-- A file is refused for what is wrong with it. -/
lemma refused_of_databaseAt (htyped : sandbox.HoldsTyped path)
    (h : sandbox.databaseAt path = .error (.reported error)) : Refused sandbox path error := by
  unfold Sandbox.databaseAt at h
  split at h
  · next hread =>
    cases h
    exact .unreadable hread
  · cases h
  · next text htext =>
    unfold deserialize at h
    split at h
    · next document hparse =>
      exact refused_of_ofDocument htext hparse (htyped text document htext hparse) h
    · next fault hparse =>
      unfold LoadError.ofSyntax at h
      split at h
      · cases h
      · cases h
        exact .notJson htext hparse

end Files

end Database

namespace Sandbox

variable {α β ε : Type} {allowed : ε → Prop}

/-- If the program ends early, then with one of the given errors. -/
def FailsWithin (allowed : ε → Prop) (part : ExceptT ε (StateM Sandbox) α) : Prop :=
  ∀ before error after, part.run.run before = (.error error, after) → allowed error

lemma failsWithin_pure (a : α) :
    FailsWithin allowed (pure a : ExceptT ε (StateM Sandbox) α) := by
  intro before error after h
  cases h

lemma failsWithin_throw {error : ε} (h : allowed error) :
    FailsWithin allowed (throw error : ExceptT ε (StateM Sandbox) α) := by
  intro before _ after hrun
  cases hrun
  exact h

/-- A lifted program never ends early. -/
lemma failsWithin_lift (part : StateM Sandbox α) :
    FailsWithin allowed (ExceptT.lift part : ExceptT ε (StateM Sandbox) α) := by
  intro before error after h
  cases h

/-- Two parts in a row fail only as one of them does. -/
lemma FailsWithin.bind {part : ExceptT ε (StateM Sandbox) α}
    {next : α → ExceptT ε (StateM Sandbox) β} (hpart : FailsWithin allowed part)
    (hnext : ∀ a, FailsWithin allowed (next a)) : FailsWithin allowed (part >>= next) := by
  intro before error after h
  rcases run_bind_eq_error_iff.1 h with h | ⟨a, between, -, h⟩
  · exact hpart before error after h
  · exact hnext a between error after h

end Sandbox

namespace Cli

open BindingSync.Sandbox (FailsWithin failsWithin_pure failsWithin_throw failsWithin_lift
  run_bind_eq_error_iff)
open BindingSync.Text

variable {α ε : Type} {options : SyncOptions} {sandbox after : Sandbox} {error : DatabaseError}

/-- The failure is none of the database. -/
def Failure.IsOther : Failure → Prop
  | .database _ => False
  | _ => True

/-! ### Failures of a preparation -/

lemma failsWithin_orFailure (failure : ε → Failure) (h : ∀ error, (failure error).IsOther)
    (result : Except ε α) :
    FailsWithin Failure.IsOther
      (orFailure failure result : ExceptT Failure (StateM Sandbox) α) := by
  cases result with
  | ok value => exact failsWithin_pure value
  | error error => exact failsWithin_throw (h error)

/-- A part of a workspace fails with errors of the workspace only. -/
lemma failsWithin_ofWorkspace (part : ExceptT WorkspaceFailure (StateM Sandbox) α) :
    FailsWithin Failure.IsOther (ofWorkspace part) := by
  refine (failsWithin_lift part.run).bind fun result => ?_
  match result with
  | .ok value => exact failsWithin_pure value
  | .error (.reported error) => exact failsWithin_throw trivial
  | .error (.crash crash) => exact failsWithin_throw trivial

lemma failsWithin_chooseIn [Yaml.Loader] (target : Target) (directory : Path) :
    FailsWithin Failure.IsOther
      (chooseIn target directory : ExceptT Failure (StateM Sandbox) _) := by
  have hlast : ∀ (lacks : Prop) [Decidable lacks] (selection : Selection),
      FailsWithin Failure.IsOther (if lacks then throw (.crash .wrongKind) else return selection :
        ExceptT Failure (StateM Sandbox) Selection) := by
    intro lacks _ selection
    split
    · exact failsWithin_throw trivial
    · exact failsWithin_pure _
  refine (failsWithin_ofWorkspace _).bind fun config => ?_
  refine (failsWithin_ofWorkspace _).bind fun versions => ?_
  refine (failsWithin_orFailure .workspace (fun _ => trivial) _).bind fun version => ?_
  exact (failsWithin_ofWorkspace _).bind fun files => hlast _ _

lemma failsWithin_choose [Yaml.Loader] (target : Target) :
    FailsWithin Failure.IsOther (choose target : ExceptT Failure (StateM Sandbox) _) := by
  refine (failsWithin_lift Host.currentDirectory).bind fun base => ?_
  dsimp only
  split
  · rw [← Host.lift_isDirectory]
    refine (failsWithin_lift _).bind fun status => ?_
    refine (failsWithin_orFailure .crash (fun _ => trivial) _).bind fun found => ?_
    split
    · exact failsWithin_chooseIn target _
    · exact failsWithin_throw trivial
  · exact failsWithin_throw trivial

lemma failsWithin_choosePlatform (tag : WideString) :
    FailsWithin Failure.IsOther
      (choosePlatform tag : ExceptT Failure (StateM Sandbox) _) := by
  unfold choosePlatform
  split
  · exact failsWithin_pure _
  · exact failsWithin_throw trivial

lemma failsWithin_choosePolicy (policy : Option ConflictPolicy) :
    FailsWithin Failure.IsOther
      (choosePolicy policy : ExceptT Failure (StateM Sandbox) _) := by
  cases policy with
  | none => exact failsWithin_throw trivial
  | some policy => exact failsWithin_pure _

/-! ### The database of a preparation -/

/-- A database that is not new is the one in its file. -/
lemma run_obtainDatabase (path : Path) (imageBase : Option Int) (sandbox : Sandbox) :
    (obtainDatabase path false imageBase : ExceptT Failure (StateM Sandbox) _).run.run sandbox =
      (match sandbox.databaseAt path with
        | .ok db => .ok db
        | .error (.reported error) => .error (.database error)
        | .error (.crash crash) => .error (.crash crash), sandbox) := by
  rw [obtainDatabase, if_neg (by decide), ← Database.lift_load, ExceptT.run_bind,
    Sandbox.run_bind, Sandbox.run_lift, Sandbox.run_load]
  match sandbox.databaseAt path with
  | .ok db => rfl
  | .error (.reported error) => rfl
  | .error (.crash crash) => rfl

/-- A database is opened in vain if its file is refused. -/
lemma refused_of_obtainDatabase {path : Path} {isNew : Bool} {imageBase : Option Int}
    (htyped : sandbox.HoldsTyped path)
    (h : (obtainDatabase path isNew imageBase :
      ExceptT Failure (StateM Sandbox) _).run.run sandbox = (.error (.database error), after)) :
    Database.Refused sandbox path error := by
  cases isNew with
  | true => cases h
  | false =>
    rw [run_obtainDatabase] at h
    cases hdatabase : sandbox.databaseAt path with
    | ok db =>
      rw [hdatabase] at h
      cases h
    | error failure =>
      rw [hdatabase] at h
      cases failure with
      | crash crash => cases h
      | reported found =>
        cases h
        exact Database.refused_of_databaseAt htyped hdatabase

/-- A preparation fails with an error of the database only if the file of the database is refused
for it. -/
lemma refused_of_prepare [Yaml.Loader]
    (htyped : sandbox.HoldsTyped (.ofString options.database))
    (h : (prepare options : ExceptT Failure (StateM Sandbox) _).run.run sandbox =
      (.error (.database error), after)) :
    Database.Refused sandbox (.ofString options.database) error := by
  have hother : ¬ (Failure.database error).IsOther := id
  unfold prepare at h
  rcases run_bind_eq_error_iff.1 h with h | ⟨selection, s₁, hchoose, h⟩
  · exact absurd (failsWithin_choose _ _ _ _ h) hother
  rcases run_bind_eq_error_iff.1 h with h | ⟨platform, s₂, hplatform, h⟩
  · exact absurd (failsWithin_choosePlatform _ _ _ _ h) hother
  rcases run_bind_eq_error_iff.1 h with h | ⟨result, s₃, hexists, h⟩
  · rw [← Host.lift_exists?] at h
    cases h
  rcases run_bind_eq_error_iff.1 h with h | ⟨found, s₄, hfound, h⟩
  · exact absurd (failsWithin_orFailure .crash (fun _ => trivial) _ _ _ _ h) hother
  have hchosen : s₁ = sandbox := (keeps_choose _).of_run hchoose
  have hplaced : s₂ = s₁ := (keeps_choosePlatform _).of_run hplatform
  have hasked : s₃ = s₂ := (Sandbox.keeps_exists? _).of_run hexists
  have hanswered : s₄ = s₃ := (keeps_orFailure _ _).of_run hfound
  rcases run_bind_eq_error_iff.1 h with h | ⟨db, s₅, hdb, h⟩
  · rw [hanswered, hasked, hplaced, hchosen] at h
    exact refused_of_obtainDatabase htyped h
  rcases run_bind_eq_error_iff.1 h with h | ⟨policy, s₆, hpolicy, h⟩
  · exact absurd (failsWithin_choosePolicy _ _ _ _ h) hother
  rcases run_bind_eq_error_iff.1 h with h | ⟨_, s₇, hprint, h⟩
  · cases h
  rw [← Workspace.lift_sources] at h
  cases h

end Cli

end BindingSync
