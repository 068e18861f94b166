import BindingSync.Proofs.Binding.WellFormed
import BindingSync.Proofs.Sync.Settled

/-!
# What a run leaves in the database

A run in which every conflict is answered in favour of the binding files makes every function
what its declaration says, in terms of the types that the database holds in the end
(`Sync.conforms_of_useIncoming`).  Two things are not for a declaration to say and stay as they
were before the run: what a destructor returns, and the calling convention on a platform where
the database works it out for itself.
-/

namespace BindingSync.Sync

open BindingSync.Binding
open BindingSync.Text
open BindingSync.Dialogue (Transcript)

variable {before after : Progress} {log : Transcript} {platform : Platform} {cls : ClassDecl}
  {decl : FunctionDecl} {offset : Int}

/-- The declarations with an offset in the classes of a file are entries. -/
lemma mem_entries {files : List Source} {file : Source} {text : String}
    {classes : List ClassDecl} (hfile : file ∈ files) (htext : file.text = .ok text)
    (hparse : parse text = .ok classes) (hcls : cls ∈ classes) (hdecl : decl ∈ cls.functions)
    (hoffset : decl.offsetOn? platform.tag = some offset) :
    ⟨cls, decl, offset⟩ ∈ entries platform files := by
  have hclasses : cls ∈ file.classes := by
    rw [Source.classes, htext]
    simpa only [hparse] using hcls
  refine List.mem_flatMap.2 ⟨file, hfile, List.mem_flatMap.2 ⟨cls, hclasses, ?_⟩⟩
  exact List.mem_filterMap.2 ⟨decl, hdecl, by rw [hoffset]; rfl⟩

namespace Step

variable (step : Step platform cls decl offset before log after)

/-- What the function returns before a step: nothing if there is no function. -/
lemma returnValue_function : step.function.returnValue =
    (before.db.functionAt? step.address).bind FunctionRecord.returnValue := by
  rcases step.function_eq with ⟨hfound, -⟩ | ⟨hnone, hfunction, -⟩
  · rw [hfound]
    rfl
  · rw [hnone, hfunction]
    rfl

/-- The calling convention before a step: none if there is no function. -/
lemma convention_function : step.function.convention =
    (before.db.functionAt? step.address).bind FunctionRecord.convention := by
  rcases step.function_eq with ⟨hfound, -⟩ | ⟨hnone, hfunction, -⟩
  · rw [hfound]
    rfl
  · rw [hnone, hfunction]
    rfl

/-- Unless something was kept, the function returns what is declared, if that is anything. -/
lemma returnValue_result (hlog : ∀ asked ∈ log, asked.2 ≠ some .keepExisting) :
    step.result.returnValue =
      match step.returnType with
      | some type => some ⟨type, .analysis⟩
      | none => (before.db.functionAt? step.address).bind FunctionRecord.returnValue := by
  rw [step.returnValue_eq, (step.agreed_eq hlog).2, ← step.returnValue_function]
  cases step.returnType <;> rfl

/-- The function has the convention that was chosen, if one was. -/
lemma convention_result :
    step.result.convention =
      match conventionOf platform cls decl with
      | some convention => some (.plain convention.databaseName)
      | none => (before.db.functionAt? step.address).bind FunctionRecord.convention := by
  rw [step.result_eq, ← step.convention_function, conventionOf]
  cases CallingConvention.select platform (cls.isLinkedOn platform.tag) decl.dispatch <;> rfl

end Step

/-- The function is what the declaration says, by the types of the database; what was there
before decides on what the declaration leaves open. -/
structure Conforms (platform : Platform) (cls : ClassDecl) (decl : FunctionDecl) (db : Database)
    (old : Option FunctionRecord) (function : FunctionRecord) : Prop where
  /-- `this`, `ret` and the written parameters, by name and type. -/
  params : ∃ params, Declared.params? db cls decl = some params ∧
    (function.params.map fun param => (param.name, param.type)) =
      params.map fun param => (param.name, param.type)
  sources : ∀ param ∈ function.params, param.source = .analysis
  /-- Only destructors have no return type. -/
  returns : decl.isDestructor = false → ∃ expr type, decl.returnType = some expr ∧
    Declared.type? db expr = some type ∧ function.returnValue = some ⟨type, .analysis⟩
  destructor : decl.isDestructor = true →
    function.returnValue = old.bind FunctionRecord.returnValue
  convention : function.convention =
    match CallingConvention.select platform (cls.isLinkedOn platform.tag) decl.dispatch with
    | some convention => some (.plain convention.databaseName)
    | none => old.bind FunctionRecord.convention

end BindingSync.Sync
