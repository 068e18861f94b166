import BindingSync.Proofs.Cli.Preparation
import BindingSync.Proofs.Workspace.Keeping

/-!
# Synchronizations that leave files alone

A synchronization reads its binding files and its database, and it talks to the person who started
it, but it changes no file before its run is over (`Cli.keeps_attempt`), nor by reporting what the
run has done (`Cli.keeps_report`).
-/

namespace BindingSync.Cli

open BindingSync.Text
open BindingSync.Sandbox (Keeps keeps_pure)

variable {α ε γ : Type} {view : Sandbox → γ}

/-! ### What a preparation leaves alone -/

lemma keeps_orFailure (failure : ε → Failure) (result : Except ε α) :
    Keeps id (orFailure failure result : ExceptT Failure (StateM Sandbox) α).run := by
  cases result with
  | ok value => exact keeps_pure _
  | error error => exact keeps_pure _

/-- A part of a workspace keeps no less if its failures are those of a preparation. -/
lemma keeps_ofWorkspace {part : ExceptT WorkspaceFailure (StateM Sandbox) α}
    (h : Keeps view part.run) : Keeps view (ofWorkspace part).run := by
  unfold ofWorkspace
  refine h.lift.bind_except fun result => ?_
  cases result with
  | ok value => exact keeps_pure _
  | error failure => cases failure <;> exact keeps_pure _

lemma keeps_chooseIn [Yaml.Loader] (target : Target) (directory : Path) :
    Keeps id (chooseIn target directory : ExceptT Failure (StateM Sandbox) _).run := by
  have hlast : ∀ (lacks : Prop) [Decidable lacks] (selection : Selection),
      Keeps id (if lacks then throw (.crash .wrongKind) else return selection :
        ExceptT Failure (StateM Sandbox) Selection).run := by
    intro lacks _ selection
    split
    · exact keeps_pure _
    · exact keeps_pure _
  unfold chooseIn
  refine (keeps_ofWorkspace (Workspace.keeps_loadConfig _)).bind_except fun config => ?_
  refine (keeps_ofWorkspace (Workspace.keeps_discover _)).bind_except fun versions => ?_
  refine (keeps_orFailure _ _).bind_except fun version => ?_
  exact (keeps_ofWorkspace (Workspace.keeps_resolveFiles _ _ _)).bind_except fun files =>
    hlast _ _

/-- The binding files of a target are found without a trace. -/
lemma keeps_choose [Yaml.Loader] (target : Target) :
    Keeps id (choose target : ExceptT Failure (StateM Sandbox) _).run := by
  have hcurrent : Keeps id (Host.currentDirectory : StateM Sandbox _) := fun _ => rfl
  unfold choose
  refine hcurrent.lift.bind_except fun base => ?_
  dsimp only
  split
  · refine (Sandbox.keeps_isDirectory _).bind_except fun status => ?_
    refine (keeps_orFailure _ _).bind_except fun found => ?_
    split
    · exact keeps_chooseIn _ _
    · exact keeps_pure _
  · exact keeps_pure _

/-- Printing keeps the files. -/
lemma keeps_printLine (text : String) :
    Keeps Sandbox.files (Host.printLine text : StateM Sandbox _) :=
  fun _ => rfl

lemma keeps_choosePlatform (tag : WideString) :
    Keeps id (choosePlatform tag : ExceptT Failure (StateM Sandbox) _).run := by
  unfold choosePlatform
  split
  · exact keeps_pure _
  · exact keeps_pure _

lemma keeps_choosePolicy (policy : Option ConflictPolicy) :
    Keeps id (choosePolicy policy : ExceptT Failure (StateM Sandbox) _).run := by
  cases policy with
  | none => exact keeps_pure _
  | some policy => exact keeps_pure _

lemma keeps_obtainDatabase (path : Path) (isNew : Bool) (imageBase : Option Int) :
    Keeps Sandbox.files
      (obtainDatabase path isNew imageBase : ExceptT Failure (StateM Sandbox) _).run := by
  have hload : Keeps id (Database.load path : StateM Sandbox _) := by
    intro sandbox
    rw [Sandbox.run_load]
  unfold obtainDatabase
  split
  · exact (keeps_printLine _).lift.bind_except fun _ => keeps_pure _
  · rw [← Database.lift_load]
    refine hload.of_id.lift.bind_except fun result => ?_
    cases result with
    | ok db => exact keeps_pure _
    | error error => cases error <;> exact keeps_pure _

/-- A preparation keeps the files. -/
lemma keeps_prepare [Yaml.Loader] (options : SyncOptions) :
    Keeps Sandbox.files (prepare options : ExceptT Failure (StateM Sandbox) _).run := by
  have hsources : ∀ paths, Keeps id (Workspace.sources paths : StateM Sandbox _) := by
    intro paths sandbox
    rw [Sandbox.run_sources]
  unfold prepare
  refine (keeps_choose _).of_id.bind_except fun selection => ?_
  refine (keeps_choosePlatform _).of_id.bind_except fun platform => ?_
  refine (Sandbox.keeps_exists? _).of_id.bind_except fun status => ?_
  refine (keeps_orFailure _ _).of_id.bind_except fun found => ?_
  refine (keeps_obtainDatabase _ _ _).bind_except fun db => ?_
  refine (keeps_choosePolicy _).of_id.bind_except fun policy => ?_
  refine (keeps_printLine _).lift.bind_except fun _ => ?_
  rw [← Workspace.lift_sources]
  exact (hsources _).of_id.lift.bind_except fun files => keeps_pure _

/-! ### What a run leaves alone -/

lemma keeps_decide [Painter] (policy : ConflictPolicy) (conflict : Conflict) :
    Keeps Sandbox.files (decide policy conflict : StateM Sandbox _) := by
  have hask : ∀ (question remark : String) (answer? : String → Option Decision),
      Keeps Sandbox.files (Host.ask question remark answer? : StateM Sandbox _) :=
    fun _ _ _ _ => rfl
  cases policy with
  | fixed decision => exact keeps_pure _
  | ask => exact (keeps_printLine _).bind fun _ => (hask _ _ _).bind fun _ => keeps_pure _

lemma keeps_runM [Painter] (dialogue : Dialogue α) (policy : ConflictPolicy) :
    Keeps Sandbox.files (dialogue.runM (decide policy : Conflict → StateM Sandbox _)) := by
  induction dialogue with
  | done value => exact keeps_pure value
  | ask conflict next ih => exact (keeps_decide policy conflict).bind ih

lemma keeps_attempt [Yaml.Loader] [Painter] (options : SyncOptions) :
    Keeps Sandbox.files (attempt options : ExceptT Failure (StateM Sandbox) _).run := by
  refine (keeps_prepare options).bind_except fun prepared => ?_
  exact (keeps_runM _ _).lift.bind_except fun outcome => keeps_pure _

lemma keeps_printLines (lines : List String) :
    Keeps Sandbox.files (printLines lines : StateM Sandbox _) := by
  induction lines with
  | nil => exact keeps_pure _
  | cons line rest ih => exact (keeps_printLine line).bind fun _ => ih

lemma keeps_report [Painter] (progress : Progress) :
    Keeps Sandbox.files (report progress : StateM Sandbox _) := by
  refine (keeps_printLines _).bind fun _ => ?_
  refine (keeps_printLines _).bind fun _ => ?_
  refine (keeps_printLines _).bind fun _ => ?_
  exact keeps_printLine _

end BindingSync.Cli
