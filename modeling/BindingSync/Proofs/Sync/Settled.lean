import BindingSync.Proofs.Sync.Entries

/-!
# Settled declarations

A declaration is settled in a database if the function at its address already has the
signature that the declaration asks for, everything it needs is there, and nothing of the
signature is by the user's hand.  Synchronizing a settled declaration asks nothing and leaves
the database as it is (`Sync.addressed_of_settled`).

A step settles its declaration, unless a conflict was answered by keeping what was there
(`Sync.Step.settled`), and a declaration that is settled stays so while the database grows and
its function is left alone (`Sync.Settled.of_grows`).
-/

namespace BindingSync

open BindingSync.Binding
open BindingSync.Text
open BindingSync.Dialogue (Transcript)

namespace Sync

variable {before after : Progress} {log : Transcript}

/-! ### Resolving what is known -/

/-- The return type of a known declaration is only read. -/
lemma returnTypeOf_of_known {cls : ClassDecl} {decl : FunctionDecl} {type : Option DataType}
    (hknown : Declared.Known before.db cls decl)
    (hread : Declared.returnType? before.db decl = some type) :
    returnTypeOf decl before = .done (.done type before) := by
  unfold returnTypeOf
  rw [Declared.returnType?] at hread
  cases hdecl : decl.returnType with
  | none =>
    rw [hdecl] at hread
    cases hread
    rfl
  | some expr =>
    rw [hdecl] at hread
    obtain ⟨found, hfound, rfl⟩ := Option.map_eq_some_iff.1 hread
    have hexpr := hknown expr (by simp [Declared.mentioned, hdecl])
    simp only [bind_of_done (resolve_of_known hexpr hfound)]
    rfl

/-- The implicit `this` of a known declaration is only read. -/
lemma thisParams_of_known {cls : ClassDecl} {decl : FunctionDecl} {params : List Parameter}
    (hknown : Declared.Known before.db cls decl)
    (hread : Declared.thisParams? before.db cls decl = some params) :
    thisParams cls decl before = .done (.done params before) := by
  unfold thisParams
  rw [Declared.thisParams?] at hread
  split
  · next hthis =>
    rw [if_pos hthis] at hread
    obtain ⟨found, hfound, rfl⟩ := Option.map_eq_some_iff.1 hread
    have hexpr := hknown (.pointerTo cls.name) (by simp [Declared.mentioned, hthis])
    rw [resolveThis, bind_of_done (resolve_of_known hexpr hfound)]
    rfl
  · next hthis =>
    rw [if_neg hthis] at hread
    cases hread
    rfl

/-- Written parameters whose types are known are only read. -/
lemma declaredParams_of_known {decls : List ParamDecl} {params : List Parameter}
    (hknown : ∀ decl ∈ decls, Declared.KnownType before.db decl.type)
    (hread : Declared.writtenParams? before.db decls = some params) :
    declaredParams decls before = .done (.done params before) := by
  induction decls generalizing params with
  | nil =>
    cases hread
    rfl
  | cons decl rest ih =>
    obtain ⟨type, others, htype, hothers, rfl⟩ := Declared.writtenParams?_cons.1 hread
    obtain ⟨hfirst, hrest⟩ := List.forall_mem_cons.1 hknown
    rw [declaredParams, bind_of_done (resolve_of_known hfirst htype),
      bind_of_done (ih hrest hothers)]
    rfl

/-! ### Settled declarations -/

/-- The calling convention of a declaration, where it has to be chosen. -/
def conventionOf (platform : Platform) (cls : ClassDecl) (decl : FunctionDecl) :
    Option CallingConvention :=
  CallingConvention.select platform (cls.isLinkedOn platform.tag) decl.dispatch

/-- The function has the signature of the declaration, with nothing of it by the user's hand,
and the database knows everything that the declaration needs. -/
structure Settled (platform : Platform) (cls : ClassDecl) (decl : FunctionDecl) (db : Database)
    (function : FunctionRecord) : Prop where
  known : Declared.Known db cls decl
  sources : ∀ param ∈ function.params, param.source = .analysis
  signature : ∃ returnType params placed mode raised,
    Declared.returnType? db decl = some returnType ∧
    Declared.params? db cls decl = some params ∧
    function.params.length = params.length ∧
    (∀ type value, returnType = some type → function.returnValue = some value →
      value.source = .analysis) ∧
    Placing (conventionOf platform cls decl) (cls.qualify decl) params placed mode raised ∧
    function.withSignature
      ((conventionOf platform cls decl).map fun convention => convention.databaseName)
      returnType placed mode .analysis = function

variable {platform : Platform} {cls : ClassDecl} {decl : FunctionDecl} {function : FunctionRecord}

/-- A declaration that is settled stays settled while the database grows. -/
lemma Settled.of_grows {db db' : Database} (h : Settled platform cls decl db function)
    (hgrows : db.Grows db') : Settled platform cls decl db' function := by
  obtain ⟨returnType, params, placed, mode, raised, hreturn, hparams, hrest⟩ := h.signature
  exact ⟨h.known.of_grows hgrows, h.sources, returnType, params, placed, mode, raised,
    Declared.returnType?_of_grows hgrows hreturn, Declared.params?_of_grows hgrows hparams, hrest⟩

/-- Synchronizing a settled declaration asks nothing and changes nothing; it can only warn about
parameters of unknown length. -/
lemma addressed_of_settled {base offset : Int} (hbase : before.db.imageBase = some base)
    (hfunction : before.db.functionAt? (base + offset) = some function)
    (h : Settled platform cls decl before.db function) :
    ∃ raised,
      (∀ warning ∈ raised, ∃ param, warning = .undefinedParameter (cls.qualify decl) param) ∧
      addressed platform cls decl offset before = .done (.done () (warned raised before)) := by
  obtain ⟨returnType, params, placed, mode, raised, hreturn, hparams, hlength, hvalue, hplacing,
    hstable⟩ := h.signature
  obtain ⟨returnType', this, written, hreturn', hthis, hwritten, rfl⟩ :=
    Declared.params?_eq_some_iff.1 hparams
  obtain rfl : returnType = returnType' := Option.some.inj (hreturn.symm.trans hreturn')
  refine ⟨raised, hplacing.warnings, ?_⟩
  have haddress : addressOf offset before = .done (.done (base + offset) before) := by
    have hdatabase : database before = .done (.done before.db before) := rfl
    rw [addressOf, bind_of_done hdatabase, hbase]
    rfl
  have hlocate : locate cls decl (base + offset) before =
      .done (.done (function, false) before) := by
    rw [locate_apply, hfunction]
  have hknown : ∀ param ∈ decl.params, Declared.KnownType before.db param.type :=
    fun param hmem => h.known param.type (by
      simp only [Declared.mentioned, List.mem_append]
      exact .inr (List.mem_map_of_mem hmem))
  have hconsult : consult (Reconciliation.reconcile function
      (this ++ retParams returnType ++ written) returnType (cls.qualify decl) decl.isDestructor)
      before = .done (.done ⟨this ++ retParams returnType ++ written, returnType, []⟩ before) := by
    rw [consult, Reconciliation.reconcile_of_analysis _ _ hlength h.sources hvalue]
    rfl
  unfold addressed
  rw [bind_of_done haddress, bind_of_done hlocate]
  simp only [bind_of_done (returnTypeOf_of_known h.known hreturn)]
  rw [bind_of_done (thisParams_of_known h.known hthis),
    bind_of_done (declaredParams_of_known hknown hwritten), bind_of_done hconsult]
  rw [conventionOf] at hplacing hstable
  rw [bind_of_done (placed_of_placing hplacing before), write_apply, hstable]
  have hdb : (warned raised before).db.putFunction function = before.db :=
    Database.putFunction_eq_self hfunction
  rw [hdb]
  simp [noted, warned]

/-! ### Settling -/

/-- Giving a function the same signature twice is giving it once. -/
lemma withSignature_withSignature (function : FunctionRecord) (convention : Option WideString)
    (returnType : Option DataType) (params : List Parameter) (mode : StorageMode)
    (source : SourceType) :
    (function.withSignature convention returnType params mode source).withSignature convention
      returnType params mode source =
      function.withSignature convention returnType params mode source := by
  simp only [FunctionRecord.withSignature]
  cases convention <;> cases returnType <;> rfl

/-- A new signature has the parameters it was given, by name and type. -/
lemma map_shape_withSignature (function : FunctionRecord) (convention : Option WideString)
    (returnType : Option DataType) (params : List Parameter) (mode : StorageMode)
    (source : SourceType) :
    (function.withSignature convention returnType params mode source).params.map
      Allocation.shape = params.map Allocation.shape := by
  cases mode with
  | dynamic => simp [FunctionRecord.withSignature, Allocation.shape, Function.comp_def]
  | custom => rfl

/-- A new signature has the parameters it was given, by source. -/
lemma source_withSignature (function : FunctionRecord) (convention : Option WideString)
    (returnType : Option DataType) {params : List Parameter} (mode : StorageMode)
    (source : SourceType) (h : ∀ param ∈ params, param.source = .analysis) :
    ∀ param ∈ (function.withSignature convention returnType params mode source).params,
      param.source = .analysis := by
  cases mode with
  | dynamic =>
    intro param hmem
    obtain ⟨given, hgiven, rfl⟩ := List.mem_map.1 hmem
    exact h given hgiven
  | custom => exact h

namespace Step

variable {offset : Int} (step : Step platform cls decl offset before log after)

/-- Unless something was kept, a step agrees on what the declaration asks for. -/
lemma agreed_eq (hlog : ∀ entry ∈ log, entry.2 ≠ some .keepExisting) :
    step.agreed.params = step.params ∧ step.agreed.returnType = step.returnType :=
  Reconciliation.eq_incoming_of_ends step.agrees hlog

/-- The function has the parameters that were agreed on, by name and type. -/
lemma map_shape : step.result.params.map Allocation.shape =
    step.agreed.params.map Allocation.shape := by
  rw [step.result_eq, map_shape_withSignature, step.placing.map_shape]

/-- Unless something was kept, all parameters of the function come from analysis. -/
lemma source_eq (hlog : ∀ entry ∈ log, entry.2 ≠ some .keepExisting) :
    ∀ param ∈ step.result.params, param.source = .analysis := by
  have hagreed : ∀ param ∈ step.agreed.params, param.source = .analysis := fun param hmem =>
    (Declared.of_mem_params? step.params_eq param ((step.agreed_eq hlog).1 ▸ hmem)).1
  rw [step.result_eq]
  exact source_withSignature _ _ _ _ _ (step.placing.source_eq hagreed)

/-- Unless something was kept, a step settles its declaration. -/
theorem settled (hlog : ∀ entry ∈ log, entry.2 ≠ some .keepExisting) :
    Settled platform cls decl after.db step.result := by
  obtain ⟨hparams, hreturn⟩ := step.agreed_eq hlog
  have hsettled : Settled platform cls decl step.resolved.db step.result := by
    refine ⟨step.known, step.source_eq hlog, step.returnType, step.params, step.placed, step.mode,
      step.raised, step.returnType_eq, step.params_eq, ?_, ?_, hparams ▸ step.placing, ?_⟩
    · have hlength := congrArg List.length step.map_shape
      rwa [List.length_map, List.length_map, hparams] at hlength
    · intro type value htype hvalue
      rw [step.returnValue_eq, hreturn, htype] at hvalue
      cases hvalue
      rfl
    · rw [step.result_eq, hreturn]
      exact withSignature_withSignature _ _ _ _ _ _
  exact hsettled.of_grows step.grows_resolved

end Step

end Sync

end BindingSync
