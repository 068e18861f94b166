import BindingSync.Proofs.History
import BindingSync.Proofs.Sync.Settled
import BindingSync.Proofs.Sync.Summary

/-!
# Storage modes

A function in custom mode has a storage for each of its parameters, and one in dynamic mode has
none for any.  A step decides on the mode from the parameters that were agreed on, some of which it
may have kept, and writes them as the mode asks: placed one by one, or stripped of what storage
they had.  So it does not matter in which mode the function was before.  A step that stops writes
no parameters at all, and a function that it created has none.

The mode that a step writes can be told from what it wrote: placing depends on the types of the
parameters, and these are the same before and after they are placed (`Sync.Step.custom_iff`).
-/

namespace BindingSync

open BindingSync.Binding
open BindingSync.Text
open BindingSync.Dialogue (Transcript)

/-- The parameters of the function are placed as its storage mode says: one by one, or not at
all. -/
structure FunctionRecord.IsPlaced (function : FunctionRecord) : Prop where
  custom : function.storageMode = .custom → ∀ param ∈ function.params, param.storage.isSome
  dynamic : function.storageMode = .dynamic → ∀ param ∈ function.params, param.storage = none

/-- A function without parameters is placed in either mode. -/
lemma FunctionRecord.IsPlaced.of_params_eq_nil {function : FunctionRecord}
    (h : function.params = []) : function.IsPlaced :=
  ⟨by simp [h], by simp [h]⟩

/-- The parameters of all functions are placed as their storage modes say. -/
def Database.IsPlaced (db : Database) : Prop :=
  ∀ function ∈ db.functions.toList, function.IsPlaced

/-- Putting a function whose parameters are placed keeps all parameters placed. -/
lemma Database.IsPlaced.putFunction {db : Database} (h : db.IsPlaced) {function : FunctionRecord}
    (hfunction : function.IsPlaced) : (db.putFunction function).IsPlaced := by
  intro other hmem
  rcases Keyed.mem_toList_insert hmem with rfl | hmem
  · exact hfunction
  · exact h other hmem

/-- Placement is a matter of the functions only. -/
lemma Database.IsPlaced.of_functions {db db' : Database} (h : db.IsPlaced)
    (hfunctions : db'.functions = db.functions) : db'.IsPlaced :=
  fun function hmem => h function (hfunctions ▸ hmem)

namespace Sync

variable {before after : Progress} {log : Transcript} {platform : Platform} {cls : ClassDecl}
  {decl : FunctionDecl} {offset : Int}

/-! ### Steps -/

/-- A function that is created has no parameters to be placed. -/
lemma Located.isPlaced {address : Int} {function : FunctionRecord} {isNew : Bool}
    (h : Located cls decl address before function isNew after) (hbefore : before.db.IsPlaced) :
    after.db.IsPlaced := by
  cases h with
  | found _ => exact hbefore
  | created _ _ =>
    have hbare : (before.db.putFunction { address, name := decl.name }).IsPlaced :=
      hbefore.putFunction (.of_params_eq_nil rfl)
    have hnamed := hbare.of_functions (grows_namespacesBelow (namespaceOf cls) _ []).2
    exact hnamed.putFunction (.of_params_eq_nil rfl)

/-- Parameters that were placed or did not need it are written as the mode says. -/
lemma Placing.isPlaced {convention : Option CallingConvention} {location : String}
    {params placed : List Parameter} {mode : StorageMode} {raised : List Warning}
    (h : Placing convention location params placed mode raised) (function : FunctionRecord)
    (name : Option WideString) (returnType : Option DataType) (source : SourceType) :
    (function.withSignature name returnType placed mode source).IsPlaced := by
  cases h with
  | dynamic _ =>
    exact ⟨by simp [FunctionRecord.withSignature], by simp [FunctionRecord.withSignature]⟩
  | custom _ hplace =>
    obtain ⟨-, hall⟩ := Allocation.shape_place hplace
    exact ⟨fun _ param hmem => (hall param hmem).2, by simp [FunctionRecord.withSignature]⟩

/-- The mode is custom where the parameters need to be placed. -/
lemma Placing.custom_iff {convention : Option CallingConvention} {location : String}
    {params placed : List Parameter} {mode : StorageMode} {raised : List Warning}
    (h : Placing convention location params placed mode raised) :
    mode = .custom ↔ Allocation.isNeeded convention params = true := by
  cases h with
  | dynamic hneeded => simp [hneeded]
  | custom hneeded _ => simp [hneeded]

/-- Parameters need to be placed under two conventions, both of them on one platform, and only for
a structure by value or a floating-point number. -/
lemma isNeeded_conventionOf_iff {params : List Parameter} :
    Allocation.isNeeded (conventionOf platform cls decl) params = true ↔
      platform = .windows ∧
        (conventionOf platform cls decl = some .membercall ∨
          conventionOf platform cls decl = some .optcall) ∧
        ∃ param ∈ params, param.type.isStruct ∨ param.type.isFloat := by
  have hplatform : (conventionOf platform cls decl).isSome → platform = .windows := by
    cases platform with
    | windows => simp
    | mac => simp [conventionOf, CallingConvention.select, Platform.isConventionSensitive]
  cases hconvention : conventionOf platform cls decl with
  | none => simp [Allocation.isNeeded]
  | some convention =>
    have hwindows := hplatform (by simp [hconvention])
    cases convention <;>
      simp [Allocation.isNeeded, CallingConvention.needsExplicitStorage, hwindows]

namespace Step

variable (step : Step platform cls decl offset before log after)

/-- A step writes its parameters as the mode says that it writes. -/
lemma isPlaced_result : step.result.IsPlaced := by
  rw [step.result_eq]
  exact step.placing.isPlaced _ _ _ _

/-- A step writes the custom mode where the parameters that it writes need to be placed. -/
lemma custom_iff :
    step.result.storageMode = .custom ↔
      Allocation.isNeeded (conventionOf platform cls decl) step.result.params = true := by
  have hmode : step.result.storageMode = step.mode := by
    rw [step.result_eq]
    rfl
  rw [hmode, step.placing.custom_iff, Allocation.isNeeded_congr step.map_shape]
  rfl

include step in
/-- A step that comes to its end keeps all parameters placed. -/
lemma isPlaced (hbefore : before.db.IsPlaced) : after.db.IsPlaced := by
  have hresolved := (step.located.isPlaced hbefore).of_functions step.resolving.functions
  rw [step.db_eq]
  exact hresolved.putFunction step.isPlaced_result

end Step

/-- A step that stops wrote no parameters. -/
lemma Halted.isPlaced {cause : Stop} (h : Halted platform cls decl offset before log cause after)
    (hbefore : before.db.IsPlaced) : after.db.IsPlaced := by
  rcases h.cases_db with hdb | ⟨_, _, _, start, typed, _, _, -, located, introduces, hdb⟩
  · rwa [hdb]
  · rw [hdb]
    exact (located.isPlaced hbefore).of_functions introduces.functions

/-! ### Runs -/

/-- A run keeps all parameters placed, however it ends. -/
lemma isPlaced_of_ends {files : List Source} {db : Database} {outcome : Outcome Unit}
    (hends : (synchronize platform files db).Ends log outcome) (hdb : db.IsPlaced) :
    outcome.progress.db.IsPlaced :=
  invariant_of_ends (P := fun progress => progress.db.IsPlaced)
    (fun _ _ _ _ _ step => step.isPlaced) (fun _ _ _ _ _ _ halted => halted.isPlaced) hends hdb

/-- After a run that came to its end, the function of each entry has the mode that its parameters
need. -/
lemma exists_custom_iff_of_ends {files : List Source} {db : Database} {progress : Progress}
    (hends : (synchronize platform files db).Ends log (.done () progress))
    (hdistinct : ((entries platform files).map Entry.offset).Nodup) {e : Entry}
    (hmem : e ∈ entries platform files) :
    ∃ function, e.function? progress.db = some function ∧
      (function.storageMode = .custom ↔
        Allocation.isNeeded (conventionOf platform e.cls e.decl) function.params = true) := by
  have hreturns := returns_each_of_returns_sources hends
  obtain ⟨base, hbase⟩ := exists_imageBase_of_mem hreturns hmem
  obtain ⟨start, finish, part, step, hstep, hstart, -, -, hresult, -⟩ :=
    exists_step_of_mem hreturns hbase hdistinct hmem
  have haddress : e.address? progress.db = some step.address := by
    rw [address?_of_grows (grows_of_returns_each hreturns), ← address?_of_grows hstart,
      step.address?_eq]
  exact ⟨step.result, by rw [Entry.function?, haddress, Option.bind_some, hresult],
    step.custom_iff⟩

end Sync

namespace Database

open BindingSync.Sync

/-- In a database of a history, all parameters of a function in custom mode have a storage and none
of one in dynamic mode has.  After a run that comes to its end, with distinct offsets, a function
that is declared for the platform is in custom mode if and only if this is the platform on which
conventions are chosen, it was given one of the two that ask for it, and one of the parameters that
it has in the end is a structure by value or a floating-point number. -/
theorem storage_of_reachable :
    (∀ db : Database, db.Reachable → ∀ function ∈ db.functions.toList, function.IsPlaced) ∧
      ∀ (platform : Platform) (files : List Source) (db : Database) (log : Transcript)
        (progress : Progress), (synchronize platform files db).Ends log (.done () progress) →
        ((entries platform files).map Entry.offset).Nodup →
        ∀ e ∈ entries platform files, ∃ function, e.function? progress.db = some function ∧
          (function.storageMode = .custom ↔
            platform = .windows ∧
              (conventionOf platform e.cls e.decl = some .membercall ∨
                conventionOf platform e.cls e.decl = some .optcall) ∧
              ∃ param ∈ function.params, param.type.isStruct ∨ param.type.isFloat) := by
  constructor
  · intro db h
    change db.IsPlaced
    induction h with
    | new imageBase pointerSize integerSize => simp [IsPlaced]
    | synchronize _ hends ih => exact isPlaced_of_ends hends ih
    | reload hdb hwrite hread ih =>
      rwa [eq_of_deserialize_serialize? (sound_of_reachable hdb).1 hwrite hread]
  · intro platform files db log progress hends hdistinct e hmem
    obtain ⟨function, hfunction, hcustom⟩ := exists_custom_iff_of_ends hends hdistinct hmem
    exact ⟨function, hfunction, hcustom.trans isNeeded_conventionOf_iff⟩

/-- In the run of `playerFile` over a new database, the floating-point parameter of `update` asks
for the custom mode, and `team` has no such parameter. -/
theorem storage_of_reachable_player :
    ∃ (log : Transcript) (progress : Progress),
      (synchronize .windows [playerFile] {}).Ends log (.done () progress) ∧
      progress.db.Reachable ∧ ((entries .windows [playerFile]).map Entry.offset).Nodup ∧
      progress.db.functions.toList.map FunctionRecord.storageMode = [.custom, .dynamic] ∧
      (∀ function ∈ progress.db.functions.toList, function.IsPlaced) ∧
      ∀ e ∈ entries .windows [playerFile], ∃ function, e.function? progress.db = some function ∧
        (function.storageMode = .custom ↔
          Platform.windows = .windows ∧
            (conventionOf .windows e.cls e.decl = some .membercall ∨
              conventionOf .windows e.cls e.decl = some .optcall) ∧
            ∃ param ∈ function.params, param.type.isStruct ∨ param.type.isFloat) := by
  let run := (synchronize .windows [playerFile] {}).runFixed .useIncoming
  obtain ⟨log, hends, -⟩ := Dialogue.exists_ends_runFixed .useIncoming
    (synchronize .windows [playerFile] {})
  obtain ⟨hdone, hmodes, hdistinct⟩ : run.isDone = true ∧
      run.progress.db.functions.toList.map FunctionRecord.storageMode = [.custom, .dynamic] ∧
      ((entries .windows [playerFile]).map Entry.offset).Nodup := by decide +kernel
  have hrun : run.progress.db.Reachable := .synchronize (.new (some 0x400000) 4 4) hends
  have hreturns : (synchronize .windows [playerFile] {}).Ends log (.done () run.progress) := by
    rw [← Outcome.eq_done_of_isDone hdone]
    exact hends
  exact ⟨log, run.progress, hreturns, hrun, hdistinct, hmodes, storage_of_reachable.1 _ hrun,
    storage_of_reachable.2 _ _ _ _ _ hreturns hdistinct⟩

end Database

end BindingSync
