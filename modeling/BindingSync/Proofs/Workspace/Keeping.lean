import BindingSync.Proofs.Workspace.Lifting
import BindingSync.Proofs.Workspace.Reading

/-!
# Programs that leave a sandbox alone

What a program leaves alone is said by a view of the sandbox that it keeps (`Sandbox.Keeps`): a
program that only reads keeps everything, one that talks to a person keeps the file tree.  A program
keeps what its parts keep, also if it may end early between them.

All that is asked of a workspace is read, so it is found out without a trace, whatever comes of it
(`Workspace.keeps_loadConfig`, `keeps_discover`, `keeps_resolveFiles`).
-/

namespace BindingSync

namespace Sandbox

variable {α β γ ε : Type}

/-! ### Views that a program keeps -/

/-- A program leaves a view of the sandbox as it is. -/
def Keeps (view : Sandbox → γ) (part : StateM Sandbox α) : Prop :=
  ∀ sandbox, view (part.run sandbox).2 = view sandbox

variable {view : Sandbox → γ}

lemma keeps_pure (a : α) : Keeps view (pure a : StateM Sandbox α) :=
  fun _ => rfl

lemma Keeps.bind {part : StateM Sandbox α} {next : α → StateM Sandbox β} (hpart : Keeps view part)
    (hnext : ∀ a, Keeps view (next a)) : Keeps view (part >>= next) := by
  intro sandbox
  rw [run_bind, hnext, hpart]

/-- A program that may end early keeps a view if it does so until it ends. -/
lemma Keeps.bind_except {part : ExceptT ε (StateM Sandbox) α}
    {next : α → ExceptT ε (StateM Sandbox) β} (hpart : Keeps view part.run)
    (hnext : ∀ a, Keeps view (next a).run) : Keeps view (part >>= next).run := by
  rw [ExceptT.run_bind]
  refine hpart.bind fun result => ?_
  cases result with
  | ok a => exact hnext a
  | error error => exact keeps_pure _

/-- A program keeps no less among programs that may end early. -/
lemma Keeps.lift {part : StateM Sandbox α} (hpart : Keeps view part) :
    Keeps view (ExceptT.lift part : ExceptT ε (StateM Sandbox) α).run :=
  hpart.bind fun a => keeps_pure (Except.ok a)

/-- A lifted program never ends early. -/
lemma run_lift (part : StateM Sandbox α) (sandbox : Sandbox) :
    (ExceptT.lift part : ExceptT ε (StateM Sandbox) α).run.run sandbox =
      (.ok (part.run sandbox).1, (part.run sandbox).2) :=
  rfl

/-- Two parts in a row come to their end if both do, the second from where the first one ended. -/
lemma run_bind_eq_ok_iff {part : ExceptT ε (StateM Sandbox) α}
    {next : α → ExceptT ε (StateM Sandbox) β} {before after : Sandbox} {b : β} :
    (part >>= next).run.run before = (.ok b, after) ↔
      ∃ a between, part.run.run before = (.ok a, between) ∧
        (next a).run.run between = (.ok b, after) := by
  rw [ExceptT.run_bind, run_bind]
  obtain ⟨result, between⟩ := part.run.run before
  cases result with
  | ok a =>
    constructor
    · intro h
      exact ⟨a, between, rfl, h⟩
    · rintro ⟨_, _, heq, h⟩
      cases heq
      exact h
  | error error =>
    constructor
    · intro h
      cases h
    · rintro ⟨_, _, heq, -⟩
      cases heq

/-- Two parts in a row end early if one of them does, the second from where the first one ended. -/
lemma run_bind_eq_error_iff {part : ExceptT ε (StateM Sandbox) α}
    {next : α → ExceptT ε (StateM Sandbox) β} {before after : Sandbox} {error : ε} :
    (part >>= next).run.run before = (.error error, after) ↔
      part.run.run before = (.error error, after) ∨
        ∃ a between, part.run.run before = (.ok a, between) ∧
          (next a).run.run between = (.error error, after) := by
  rw [ExceptT.run_bind, run_bind]
  obtain ⟨result, between⟩ := part.run.run before
  cases result with
  | ok a =>
    constructor
    · intro h
      exact .inr ⟨a, between, rfl, h⟩
    · rintro (h | ⟨_, _, heq, h⟩)
      · cases h
      · cases heq
        exact h
  | error found =>
    constructor
    · intro h
      cases h
      exact .inl rfl
    · rintro (h | ⟨_, _, heq, -⟩)
      · cases h
        rfl
      · cases heq

/-- A program that keeps a view ends with it. -/
lemma Keeps.of_run {part : StateM Sandbox α} {before after : Sandbox} {a : α}
    (h : Keeps view part) (hrun : part.run before = (a, after)) : view after = view before := by
  have hview := h before
  rwa [hrun] at hview

/-- Who keeps everything keeps every view. -/
lemma Keeps.of_id {part : StateM Sandbox α} (h : Keeps id part) : Keeps view part :=
  fun sandbox => congrArg view (h sandbox)

/-! ### The file tree -/

/-- The file tree, and where it is seen from. -/
def files (sandbox : Sandbox) : FileTree × List String :=
  (sandbox.tree, sandbox.current)

variable {sandbox other : Sandbox}

/-- Where a path leads is a matter of the file tree. -/
lemma locate_congr (h : sandbox.files = other.files) (path : Path) :
    sandbox.locate path = other.locate path := by
  obtain ⟨htree, hcurrent⟩ := Prod.mk.inj h
  rw [locate, locate, htree, hcurrent]

lemma statusAt_congr (h : sandbox.files = other.files) (path : Path) :
    sandbox.statusAt path = other.statusAt path := by
  rw [statusAt, statusAt, status, status, locate_congr h, (Prod.mk.inj h).1]

lemma read_congr (h : sandbox.files = other.files) (path : Path) :
    sandbox.read path = other.read path := by
  rw [read, read, locate_congr h, (Prod.mk.inj h).1]

lemma textAt_congr (h : sandbox.files = other.files) (path : Path) :
    sandbox.textAt path = other.textAt path := by
  rw [textAt, textAt, read_congr h]

/-- So is what is read from it. -/
lemma sourceAt_congr (h : sandbox.files = other.files) (path : Path) :
    sandbox.sourceAt path = other.sourceAt path := by
  rw [sourceAt, sourceAt, textAt_congr h]

/-! ### Reading -/

lemma keeps_statusAt (path : Path) : Keeps id (Host.statusAt path : StateM Sandbox _) := by
  intro sandbox
  rw [run_statusAt]

lemma keeps_exists? (path : Path) :
    Keeps id (Host.exists? path : ExceptT ε (StateM Sandbox) _).run := by
  rw [← Host.lift_exists?]
  exact ((keeps_statusAt path).bind fun _ => keeps_pure _).lift

lemma keeps_isDirectory (path : Path) :
    Keeps id (Host.isDirectory path : ExceptT ε (StateM Sandbox) _).run := by
  rw [← Host.lift_isDirectory]
  exact ((keeps_statusAt path).bind fun _ => keeps_pure _).lift

lemma keeps_isFile (path : Path) :
    Keeps id (Host.isFile path : ExceptT ε (StateM Sandbox) _).run := by
  rw [← Host.lift_isFile]
  exact ((keeps_statusAt path).bind fun _ => keeps_pure _).lift

lemma keeps_readText (path : Path) :
    Keeps id (Host.readText path : ExceptT ε (StateM Sandbox) _).run := by
  have hread : Keeps id (Host.readText path : StateM Sandbox _) := by
    intro sandbox
    rw [run_readText]
  rw [← Host.lift_readText]
  exact hread.lift

end Sandbox

namespace Workspace

open Sandbox (Keeps keeps_pure keeps_exists? keeps_isDirectory keeps_isFile keeps_readText)

lemma keeps_orCrash {α : Type} (result : Except Crash α) :
    Keeps id (orCrash result : ExceptT WorkspaceFailure (StateM Sandbox) α).run := by
  cases result with
  | ok value => exact keeps_pure _
  | error crash => exact keeps_pure _

lemma keeps_loadConfig [Yaml.Loader] (directory : Path) :
    Keeps id (loadConfig directory : ExceptT _ (StateM Sandbox) _).run := by
  unfold loadConfig
  refine (keeps_exists? _).bind_except fun found => ?_
  refine (keeps_orCrash found).bind_except fun found => ?_
  split
  · refine (keeps_readText _).bind_except fun result => ?_
    match result with
    | .error (.file error) => exact keeps_pure _
    | .error (.crash crash) => exact keeps_pure _
    | .ok text => exact keeps_pure _
  · exact keeps_pure _

lemma keeps_versionNames (bindings : Path) (names : List String) :
    Keeps id (versionNames bindings names : ExceptT _ (StateM Sandbox) _).run := by
  induction names with
  | nil => exact keeps_pure _
  | cons name rest ih =>
    refine (keeps_isDirectory _).bind_except fun found => ?_
    refine (keeps_orCrash found).bind_except fun isVersion => ?_
    exact ih.bind_except fun others => keeps_pure _

/-- Finding the versions of a workspace changes nothing. -/
lemma keeps_discover (bindings : Path) :
    Keeps id (discover bindings : ExceptT _ (StateM Sandbox) _).run := by
  have hnames : Keeps id (Host.names bindings : StateM Sandbox _) := fun _ => rfl
  unfold discover
  refine (keeps_isDirectory _).bind_except fun found => ?_
  refine (keeps_orCrash found).bind_except fun found => ?_
  split
  · refine hnames.lift.bind_except fun names => ?_
    exact (keeps_versionNames bindings names).bind_except fun _ => keeps_pure _
  · exact keeps_pure _

lemma keeps_resolveFiles (bindings : Path) (version : String) (names : List String) :
    Keeps id (resolveFiles bindings version names : ExceptT _ (StateM Sandbox) _).run := by
  induction names with
  | nil => exact keeps_pure _
  | cons name rest ih =>
    refine (keeps_isFile _).bind_except fun found => ?_
    refine (keeps_orCrash found).bind_except fun found => ?_
    split
    · exact ih.bind_except fun paths => keeps_pure _
    · exact keeps_pure _

end Workspace

end BindingSync
