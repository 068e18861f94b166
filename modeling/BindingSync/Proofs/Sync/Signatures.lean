import BindingSync.Proofs.Database.Coherence
import BindingSync.Proofs.Sync.Frame

/-!
# The types in signatures

A signature holds types and not only their names, and nothing but the way in which signatures are
written keeps these types the ones that the database stores.  A step takes them from two places:
from the resolved expressions of the declaration, which read as what is stored, and from the
signature that was there.  It writes them at its end, when nothing is resolved any more, and types
are never replaced.  So the signatures stay stored through every run, however it ends
(`Sync.hasStoredSignatures_of_ends`).
-/

namespace BindingSync

open BindingSync.Binding
open BindingSync.Dialogue (Transcript)
open BindingSync.Database (HasStoredSignatures)

/-- What an expression reads as is stored behind its pointers. -/
lemma Declared.isStoredIn_of_type? {db : Database} {expr : TypeExpr} {type : DataType}
    (h : type? db expr = some type) : type.IsStoredIn db := by
  obtain ⟨found, hfound, rfl⟩ := Option.map_eq_some_iff.1 h
  exact Database.isStoredIn_indirect (Database.isStoredIn_of_typeAt? hfound) _ _

namespace Sync

variable {before after : Progress} {log : Transcript} {platform : Platform} {cls : ClassDecl}
  {decl : FunctionDecl} {offset : Int}

/-! ### Steps -/

/-- A function that is located has a stored signature, because a new one has none. -/
lemma Located.hasStoredSignatures {address : Int} {function : FunctionRecord} {isNew : Bool}
    (h : Located cls decl address before function isNew after)
    (hbefore : before.db.HasStoredSignatures) :
    after.db.HasStoredSignatures ∧ function.HasStoredTypes after.db := by
  cases h with
  | found hfound => exact ⟨hbefore, hbefore function (Keyed.mem_of_get? hfound).1⟩
  | created _ _ =>
    have hbare : (before.db.putFunction { address, name := decl.name }).HasStoredSignatures :=
      hbefore.putFunction ⟨by simp, by simp⟩
    obtain ⟨hgrows, hfunctions⟩ := grows_namespacesBelow (namespaceOf cls)
      (before.db.putFunction { address, name := decl.name }) []
    have hnew : ∀ db, (newFunction cls decl address).HasStoredTypes db := fun db =>
      ⟨by simp [newFunction], by simp [newFunction]⟩
    exact ⟨(hbare.of_functions hgrows hfunctions).putFunction (hnew _), hnew _⟩

/-- A step writes stored types only. -/
lemma Step.hasStoredTypes (step : Step platform cls decl offset before log after)
    (hfunction : step.function.HasStoredTypes step.resolved.db) :
    step.result.HasStoredTypes step.resolved.db := by
  have hparams : ∀ param ∈ step.params, param.type.IsStoredIn step.resolved.db := by
    intro param hmem
    obtain ⟨-, expr, hexpr⟩ := Declared.of_mem_params? step.params_eq param hmem
    exact Declared.isStoredIn_of_type? hexpr
  have hreturn : ∀ type ∈ step.returnType, type.IsStoredIn step.resolved.db := by
    intro type htype
    obtain ⟨expr, hexpr⟩ := Declared.exists_of_returnType? (htype ▸ step.returnType_eq)
    exact Declared.isStoredIn_of_type? hexpr
  obtain ⟨hagreed, hagreedReturn⟩ :=
    Reconciliation.forall_of_ends hfunction.params hparams hreturn step.agrees
  rw [step.result_eq]
  refine hfunction.withSignature _ hagreedReturn (fun param hmem => ?_) _ _
  obtain ⟨origin, horigin, htype⟩ := step.placing.exists_of_mem param hmem
  exact htype ▸ hagreed origin horigin

/-- A step that comes to its end keeps all signatures stored. -/
lemma Step.hasStoredSignatures (step : Step platform cls decl offset before log after)
    (hbefore : before.db.HasStoredSignatures) : after.db.HasStoredSignatures := by
  obtain ⟨hstart, hfunction⟩ := step.located.hasStoredSignatures hbefore
  rw [step.db_eq]
  exact (hstart.of_functions step.resolving.grows step.resolving.functions).putFunction
    (step.hasStoredTypes (hfunction.of_grows step.resolving.grows))

/-- A step that stops wrote no signature. -/
lemma Halted.hasStoredSignatures {cause : Stop}
    (h : Halted platform cls decl offset before log cause after)
    (hbefore : before.db.HasStoredSignatures) : after.db.HasStoredSignatures := by
  rcases h.cases_db with hdb | ⟨_, _, _, start, typed, _, _, -, located, introduces, hdb⟩
  · rwa [hdb]
  · rw [hdb]
    exact (located.hasStoredSignatures hbefore).1.of_functions introduces.grows introduces.functions

/-! ### Runs -/

/-- A run keeps all signatures stored, however it ends. -/
theorem hasStoredSignatures_of_ends {files : List Source} {db : Database}
    {outcome : Outcome Unit} (hends : (synchronize platform files db).Ends log outcome)
    (hdb : db.HasStoredSignatures) : outcome.progress.db.HasStoredSignatures :=
  invariant_of_ends (P := fun progress => progress.db.HasStoredSignatures)
    (fun _ _ _ _ _ step => step.hasStoredSignatures)
    (fun _ _ _ _ _ _ halted => halted.hasStoredSignatures) hends hdb

end Sync

end BindingSync
