import BindingSync.Proofs.Sync.Replay
import BindingSync.Proofs.Sync.Summary

/-!
# Keeping twice

Whoever answers every conflict by keeping what is there wants the database to stay as the user made
it, now and in every later run.  A second such run leaves the database as it is if, and only if,
the first one disowned no entry (`Sync.keeps_again_iff`).

An entry is disowned when the user's parameters are kept and have to be placed one by one.  Placing
makes parameters from analysis of them, and nothing of analysis is worth a question.  Only a list
that is longer than the declared one is asked about whoever its author is; any other list that was
placed is given up by the second run, although the user kept it in the first.

Everything else that is kept is kept again, for the same reason as the first time: the function that
a step leaves behind disagrees with its declaration wherever the function before it did.
-/

namespace BindingSync

open BindingSync.Binding
open BindingSync.Text
open BindingSync.Dialogue (Transcript)

namespace Reconciliation

variable {function : FunctionRecord} {params : List Parameter} {returnType : Option DataType}
  {location : String} {isDestructor : Bool}

/-! ### Agreeing by keeping -/

/-- What is agreed on when every conflict is answered by keeping. -/
def keeping (function : FunctionRecord) (params : List Parameter) (returnType : Option DataType)
    (location : String) (isDestructor : Bool) : Reconciliation where
  params :=
    if (signatureConflict? function params location isDestructor).isSome then function.params
    else params
  returnType :=
    if (returnConflict? function returnType location).isSome then none else returnType
  conflicts := (signatureConflict? function params location isDestructor).toList ++
    (returnConflict? function returnType location).toList

/-- A conflict is answered by keeping if there is one. -/
lemma runFixed_keeps (conflict? : Option Conflict) :
    (keeps conflict?).runFixed .keepExisting = .ok conflict?.isSome := by
  cases conflict? <;> rfl

/-- Keeping agrees on what is kept. -/
lemma runFixed_reconcile :
    (reconcile function params returnType location isDestructor).runFixed .keepExisting =
      .ok (keeping function params returnType location isDestructor) := by
  rw [reconcile, Dialogue.runFixed_bind, runFixed_keeps]
  simp only [Dialogue.runFixed_bind, runFixed_keeps]
  rfl

/-- Whether a signature conflicts depends on the names, the types and the authors of the function's
parameters. -/
lemma paramsConflict_congr {existing existing' : List Parameter}
    (hshape : existing.map Allocation.shape = existing'.map Allocation.shape)
    (hsource : existing.map Parameter.source = existing'.map Parameter.source)
    (incoming : List Parameter) :
    paramsConflict existing incoming = paramsConflict existing' incoming := by
  have hlength : existing.length = existing'.length := by
    simpa using congrArg List.length hshape
  have hany : ∀ list : List Parameter,
      ((list.zip incoming).any fun pair => paramConflicts pair.1 pair.2) =
        (((list.map Allocation.shape).zip (list.map Parameter.source)).zip incoming).any
          fun pair => paramConflicts ⟨pair.1.1.1, pair.1.1.2, pair.1.2, none⟩ pair.2 := by
    intro list
    rw [List.zip_map', List.zip_map_left, List.any_map]
    rfl
  rw [paramsConflict, paramsConflict, hlength, hany, hany, hshape, hsource]

/-- Parameters of the user's hand that disagree with as many or more incoming ones are not the same
as these by names and types. -/
lemma shape_ne_of_paramsConflict {existing incoming : List Parameter}
    (hconflict : paramsConflict existing incoming = true)
    (hlength : existing.length ≤ incoming.length) :
    existing.map Allocation.shape ≠ incoming.map Allocation.shape := by
  intro hshape
  have hfalse : ∀ pair ∈ existing.zip incoming, paramConflicts pair.1 pair.2 = false := by
    rintro ⟨a, b⟩ hmem
    obtain ⟨index, hindex⟩ := List.mem_iff_getElem?.1 hmem
    obtain ⟨ha, hb⟩ := List.getElem?_zip_eq_some.1 hindex
    have hsame : Allocation.shape a = Allocation.shape b := by
      have hget := congrArg (·[index]?) hshape
      simpa [ha, hb] using hget
    obtain ⟨hname, htype⟩ := Prod.mk.inj hsame
    have hdiffer : namesDiffer b.name b.name = false := by
      cases b.name <;> simp [namesDiffer]
    simp [paramConflicts, hname, htype, hdiffer]
  rw [paramsConflict, decide_eq_false (Nat.not_lt.2 hlength), Bool.false_or] at hconflict
  obtain ⟨pair, hmem, hpair⟩ := List.any_eq_true.1 hconflict
  exact absurd ((hfalse pair hmem).symm.trans hpair) Bool.false_ne_true

/-- Whether a return type conflicts depends on what the function returns. -/
lemma returnConflict?_congr {function' : FunctionRecord}
    (h : function.returnValue = function'.returnValue) :
    returnConflict? function returnType location = returnConflict? function' returnType location := by
  unfold returnConflict?
  rw [h]

end Reconciliation

namespace Sync

variable {before after : Progress} {log : Transcript} {platform : Platform} {cls : ClassDecl}
  {decl : FunctionDecl} {offset : Int}

/-! ### Signatures that are kept -/

/-- A step in which every conflict is answered by keeping leaves the function as it is, and the
database knows everything that the declaration needs. -/
structure Kept (platform : Platform) (cls : ClassDecl) (decl : FunctionDecl) (db : Database)
    (function : FunctionRecord) : Prop where
  known : Declared.Known db cls decl
  stable : ∃ returnType params agreed placed mode raised,
    Declared.returnType? db decl = some returnType ∧
    Declared.params? db cls decl = some params ∧
    Reconciliation.keeping function params returnType (cls.qualify decl) decl.isDestructor =
      agreed ∧
    Placing (conventionOf platform cls decl) (cls.qualify decl) agreed.params placed mode raised ∧
    function.withSignature
      ((conventionOf platform cls decl).map fun convention => convention.databaseName)
      agreed.returnType placed mode .analysis = function

/-- A signature that is kept stays so while the database grows. -/
lemma Kept.of_grows {db db' : Database} {function : FunctionRecord}
    (h : Kept platform cls decl db function) (hgrows : db.Grows db') :
    Kept platform cls decl db' function := by
  obtain ⟨returnType, params, agreed, placed, mode, raised, hreturn, hparams, hrest⟩ := h.stable
  exact ⟨h.known.of_grows hgrows, returnType, params, agreed, placed, mode, raised,
    Declared.returnType?_of_grows hgrows hreturn, Declared.params?_of_grows hgrows hparams, hrest⟩

/-- Keeping a signature that is kept does nothing; it can only warn about parameters of unknown
length. -/
lemma runFixed_addressed_of_kept {base : Int} {function : FunctionRecord}
    (hbase : before.db.imageBase = some base)
    (hfunction : before.db.functionAt? (base + offset) = some function)
    (h : Kept platform cls decl before.db function) :
    ∃ raised, (addressed platform cls decl offset before).runFixed .keepExisting =
      .done () (warned raised before) := by
  obtain ⟨returnType, params, agreed, placed, mode, raised, hreturn, hparams, hkeeping, hplacing,
    hstable⟩ := h.stable
  obtain ⟨log, hagrees, hall⟩ := Dialogue.runFixed_eq_iff.1
    (@Reconciliation.runFixed_reconcile function params returnType (cls.qualify decl)
      decl.isDestructor)
  rw [hkeeping] at hagrees
  have hreturns := returns_addressed hbase (.found hfunction)
    (incoming_of_known h.known hreturn hparams) hagrees hplacing hstable.symm
  have hsame : noted false function function (cls.qualify decl)
      { warned raised before with db := before.db.putFunction function } =
        warned raised before := by
    rw [Database.putFunction_eq_self hfunction]
    simp [noted, warned]
  rw [hsame] at hreturns
  exact ⟨raised, Dialogue.runFixed_eq_iff.2 ⟨log, hreturns, hall⟩⟩

/-- Where all signatures are kept, a run that keeps does nothing. -/
lemma runFixed_each_of_kept {list : List Entry} {base : Int}
    (hbase : before.db.imageBase = some base)
    (h : ∀ e ∈ list, ∃ function, before.db.functionAt? (base + e.offset) = some function ∧
      Kept platform e.cls e.decl before.db function) :
    ∃ raised, (each (entry platform) list before).runFixed .keepExisting =
      .done () (warned raised before) := by
  induction list generalizing before with
  | nil => exact ⟨[], by rw [warned, List.append_nil]; rfl⟩
  | cons first rest ih =>
    obtain ⟨⟨function, hfunction, hkept⟩, hrest⟩ := List.forall_mem_cons.1 h
    obtain ⟨raised, hfirst⟩ := runFixed_addressed_of_kept hbase hfunction hkept
    obtain ⟨others, hothers⟩ := @ih (warned raised before) hbase hrest
    refine ⟨raised ++ others, ?_⟩
    have hall : (each (entry platform) (first :: rest) before).runFixed .keepExisting =
        (each (entry platform) rest (warned raised before)).runFixed .keepExisting := by
      rw [each, bind_apply, Dialogue.runFixed_bind, entry, hfirst]
    rw [hall, hothers]
    simp only [warned, List.append_assoc]

/-! ### What a step leaves behind -/

/-- Placing what was placed and written gives it once more. -/
lemma Placing.again {convention : Option CallingConvention} {location : String}
    {params placed : List Parameter} {mode : StorageMode} {raised : List Warning}
    (h : Placing convention location params placed mode raised) (function : FunctionRecord)
    (name : Option WideString) (returnType : Option DataType) (source : SourceType) :
    ∃ result, result = function.withSignature name returnType placed mode source ∧
      Placing convention location result.params result.params mode raised ∧
      result.withSignature name returnType result.params mode source = result := by
  have hshape := map_shape_withSignature function name returnType placed mode source
  refine ⟨_, rfl, ?_, ?_⟩
  · cases h with
    | dynamic hneeded =>
      apply Placing.dynamic
      rwa [Allocation.isNeeded_congr hshape]
    | custom hneeded hplace =>
      rw [(Allocation.shape_place hplace).1] at hshape
      apply Placing.custom
      · rwa [Allocation.isNeeded_congr hshape]
      · rwa [Allocation.place_congr hshape]
  · cases mode <;> cases name <;> cases returnType <;>
      simp [FunctionRecord.withSignature, Function.comp_def]

namespace Step

variable (step : Step platform cls decl offset before log after)

/-- In a step that keeps, keeping is what was agreed on. -/
lemma agreed_eq_keeping (hlog : ∀ asked ∈ log, asked.2 = some .keepExisting) :
    step.agreed = Reconciliation.keeping step.function step.params step.returnType
      (cls.qualify decl) decl.isDestructor := by
  have hrun := Dialogue.runFixed_eq_iff.2 ⟨log, step.agrees, hlog⟩
  rw [Reconciliation.runFixed_reconcile] at hrun
  exact (Except.ok.inj hrun).symm

/-- A list that conflicts is kept, as it is by names and types. -/
lemma kept_of_isSome (hlog : ∀ asked ∈ log, asked.2 = some .keepExisting)
    (hconflict : (Reconciliation.signatureConflict? step.function step.params (cls.qualify decl)
      decl.isDestructor).isSome) :
    step.agreed.params = step.function.params ∧
      step.result.params.map Allocation.shape = step.function.params.map Allocation.shape := by
  have hagreed : step.agreed.params = step.function.params := by
    rw [step.agreed_eq_keeping hlog]
    exact if_pos hconflict
  refine ⟨hagreed, ?_⟩
  rw [step.map_shape, hagreed]

/-- A return type that was kept would be kept again, and one that was not is not asked about. -/
lemma returnType_keeping_result (hlog : ∀ asked ∈ log, asked.2 = some .keepExisting)
    (params : List Parameter) :
    (Reconciliation.keeping step.result params step.returnType (cls.qualify decl)
      decl.isDestructor).returnType = step.agreed.returnType := by
  have hagreed := congrArg Reconciliation.returnType (step.agreed_eq_keeping hlog)
  have hvalue := step.returnValue_eq
  simp only [Reconciliation.keeping] at hagreed ⊢
  by_cases hconflict : (Reconciliation.returnConflict? step.function step.returnType
      (cls.qualify decl)).isSome
  · -- What was kept is what the function had, so that the conflict is the same.
    rw [if_pos hconflict] at hagreed
    have hsame : step.result.returnValue = step.function.returnValue := by
      rw [hvalue, hagreed]
      rfl
    rw [hagreed, Reconciliation.returnConflict?_congr hsame]
    exact if_pos hconflict
  · rw [if_neg hconflict] at hagreed
    have hnone : Reconciliation.returnConflict? step.result step.returnType (cls.qualify decl) =
        none := by
      rw [hagreed] at hvalue
      unfold Reconciliation.returnConflict?
      rw [hvalue]
      cases step.returnType <;> simp
    rw [hagreed, hnone]
    rfl

/-- Whether the function of a step disagrees with its declaration, in a way that a list of as many
parameters can disagree, and has to be placed. -/
def isDisowned : Bool :=
  (Reconciliation.signatureConflict? step.function step.params (cls.qualify decl)
    decl.isDestructor).isSome &&
    decide (step.function.params.length ≤ step.params.length) &&
      Allocation.isNeeded (conventionOf platform cls decl) step.function.params

/-- A list that was kept without being placed, or that is too long, is kept again. -/
lemma params_keeping_result (hlog : ∀ asked ∈ log, asked.2 = some .keepExisting)
    (hconflict : (Reconciliation.signatureConflict? step.function step.params (cls.qualify decl)
      decl.isDestructor).isSome) (howned : step.isDisowned = false)
    (returnType : Option DataType) :
    (Reconciliation.keeping step.result step.params returnType (cls.qualify decl)
      decl.isDestructor).params = step.result.params := by
  obtain ⟨hagreed, hshape⟩ := step.kept_of_isSome hlog hconflict
  obtain ⟨conflict, hsome⟩ := Option.isSome_iff_exists.1 hconflict
  obtain ⟨-, -, hexempt, hdisagree⟩ := Reconciliation.signatureConflict?_eq_some hsome
  have hagain : Reconciliation.paramsConflict step.result.params step.params = true := by
    by_cases hlonger : step.params.length < step.function.params.length
    · have hlength := congrArg List.length hshape
      rw [List.length_map, List.length_map] at hlength
      simp [Reconciliation.paramsConflict, hlength, hlonger]
    · have hneeded : Allocation.isNeeded (conventionOf platform cls decl)
          step.agreed.params = false := by
        rw [hagreed]
        simpa [isDisowned, hconflict, Nat.not_lt.1 hlonger] using howned
      have hsource : step.result.params.map Parameter.source =
          step.function.params.map Parameter.source := by
        rw [← hagreed, step.result_eq]
        have hplacing := step.placing
        generalize step.mode = mode, step.placed = placed, step.raised = raised at hplacing ⊢
        cases hplacing with
        | dynamic _ => simp [FunctionRecord.withSignature, Function.comp_def]
        | custom hyes _ => exact absurd (hyes.symm.trans hneeded) (by simp)
      rw [Reconciliation.paramsConflict_congr hshape hsource]
      exact hdisagree
  simp [Reconciliation.keeping, Reconciliation.signatureConflict?, hexempt, hagain]

/-- A list that was replaced by the declared one is not asked about again. -/
lemma params_keeping_result_of_none (hlog : ∀ asked ∈ log, asked.2 = some .keepExisting)
    (hnone : Reconciliation.signatureConflict? step.function step.params (cls.qualify decl)
      decl.isDestructor = none) (returnType : Option DataType) :
    (Reconciliation.keeping step.result step.params returnType (cls.qualify decl)
      decl.isDestructor).params = step.agreed.params := by
  have hagreed : step.agreed.params = step.params := by
    rw [step.agreed_eq_keeping hlog, Reconciliation.keeping, hnone]
    rfl
  have hlength : step.result.params.length = step.params.length := by
    simpa [hagreed] using congrArg List.length step.map_shape
  have hsource : ∀ param ∈ step.result.params, param.source = .analysis := by
    have hparams : ∀ param ∈ step.agreed.params, param.source = .analysis := by
      intro param hmem
      rw [hagreed] at hmem
      exact (Declared.of_mem_params? step.params_eq param hmem).1
    rw [step.result_eq]
    exact source_withSignature _ _ _ _ _ (step.placing.source_eq hparams)
  have hagain := Reconciliation.paramsConflict_eq_false hlength hsource
  simp [Reconciliation.keeping, Reconciliation.signatureConflict?, hagain, hagreed]

/-- A step that keeps leaves a signature that is kept, unless it disowns the user's parameters. -/
theorem kept_of_isDisowned_eq_false (hlog : ∀ asked ∈ log, asked.2 = some .keepExisting)
    (howned : step.isDisowned = false) : Kept platform cls decl after.db step.result := by
  have hreturn := step.returnType_keeping_result hlog step.params
  have hkept : Kept platform cls decl step.resolved.db step.result := by
    refine ⟨step.known, step.returnType, step.params,
      Reconciliation.keeping step.result step.params step.returnType (cls.qualify decl)
        decl.isDestructor, ?_⟩
    by_cases hconflict : (Reconciliation.signatureConflict? step.function step.params
        (cls.qualify decl) decl.isDestructor).isSome
    · have hparams := step.params_keeping_result hlog hconflict howned step.returnType
      obtain ⟨result, hresult, hplacing, hstable⟩ := Placing.again step.placing step.function
        ((conventionOf platform cls decl).map fun convention => convention.databaseName)
        step.agreed.returnType .analysis
      obtain rfl : result = step.result := hresult.trans step.result_eq.symm
      refine ⟨step.result.params, step.mode, step.raised, step.returnType_eq, step.params_eq, rfl,
        ?_, ?_⟩
      · rw [hparams]
        exact hplacing
      · rw [hreturn]
        exact hstable
    · have hnone := Option.not_isSome_iff_eq_none.1 hconflict
      have hparams := step.params_keeping_result_of_none hlog hnone step.returnType
      refine ⟨step.placed, step.mode, step.raised, step.returnType_eq, step.params_eq, rfl, ?_, ?_⟩
      · rw [hparams]
        exact step.placing
      · rw [hreturn, step.result_eq]
        exact withSignature_withSignature _ _ _ _ _ _
  exact hkept.of_grows step.grows_resolved

/-- Parameters that were disowned are from analysis. -/
lemma source_result_of_isDisowned (hlog : ∀ asked ∈ log, asked.2 = some .keepExisting)
    (hdisowned : step.isDisowned = true) :
    ∀ param ∈ step.result.params, param.source = .analysis := by
  simp only [isDisowned, Bool.and_eq_true] at hdisowned
  obtain ⟨⟨hconflict, -⟩, hneeded⟩ := hdisowned
  obtain ⟨hagreed, -⟩ := step.kept_of_isSome hlog hconflict
  have hplaced : ∀ param ∈ step.placed, param.source = .analysis := by
    have hplacing := step.placing
    rw [hagreed] at hplacing
    generalize step.mode = mode, step.placed = placed, step.raised = raised at hplacing ⊢
    cases hplacing with
    | dynamic hnot => exact absurd (hneeded.symm.trans hnot) (by simp)
    | custom _ hplace =>
      intro param hmem
      exact ((Allocation.shape_place hplace).2 param hmem).1
  rw [step.result_eq]
  exact source_withSignature _ _ _ _ _ hplaced

/-- A later step that keeps gives up what was disowned. -/
theorem result_ne_of_isDisowned {start finish : Progress} {part : Transcript}
    (hlog : ∀ asked ∈ log, asked.2 = some .keepExisting) (hdisowned : step.isDisowned = true)
    (later : Step platform cls decl offset start part finish)
    (hpart : ∀ asked ∈ part, asked.2 = some .keepExisting)
    (hfunction : later.function = step.result) (hparams : later.params = step.params) :
    later.result ≠ step.result := by
  have hsource := step.source_result_of_isDisowned hlog hdisowned
  simp only [isDisowned, Bool.and_eq_true, decide_eq_true_eq] at hdisowned
  obtain ⟨⟨hconflict, hlength⟩, -⟩ := hdisowned
  obtain ⟨-, hshape⟩ := step.kept_of_isSome hlog hconflict
  obtain ⟨conflict, hsome⟩ := Option.isSome_iff_exists.1 hconflict
  obtain ⟨-, -, -, hdisagree⟩ := Reconciliation.signatureConflict?_eq_some hsome
  have hshorter : step.result.params.length ≤ step.params.length := by
    have hsame := congrArg List.length hshape
    rw [List.length_map, List.length_map] at hsame
    omega
  -- Nothing that comes from analysis is asked about, so that the declared list replaces it.
  have hsilent : Reconciliation.paramsConflict later.function.params later.params = false := by
    rw [hfunction, hparams, Reconciliation.paramsConflict, decide_eq_false (by omega),
      Bool.false_or]
    apply List.any_eq_false.2
    rintro ⟨existing, incoming⟩ hmem
    have hanalysis := hsource existing (List.of_mem_zip hmem).1
    simp [Reconciliation.paramConflicts, hanalysis]
  have hreplaced : later.result.params.map Allocation.shape =
      step.params.map Allocation.shape := by
    rw [later.map_shape, later.agreed_eq_keeping hpart, ← hparams]
    simp [Reconciliation.keeping, Reconciliation.signatureConflict?, hsilent]
  intro hsame
  apply Reconciliation.shape_ne_of_paramsConflict hdisagree hlength
  rw [← hshape, ← hreplaced, hsame]

end Step

/-! ### Two runs -/

/-- In a run over a database, keeping disowns the user's parameters of an entry: they disagree with
the declared ones, which are at least as many, and they have to be placed.  What is declared is
read from a database in which all types are there. -/
def Entry.isDisowned (platform : Platform) (db typed : Database) (e : Entry) : Bool :=
  match e.function? db, Declared.params? typed e.cls e.decl with
  | some function, some params =>
    (Reconciliation.signatureConflict? function params e.location e.decl.isDestructor).isSome &&
      decide (function.params.length ≤ params.length) &&
        Allocation.isNeeded (conventionOf platform e.cls e.decl) function.params
  | _, _ => false

/-- A step that begins with the function of a database shows whether its entry is disowned there. -/
lemma Step.isDisowned_eq {e : Entry} {db typed : Database}
    (step : Step platform e.cls e.decl e.offset before log after) (hstart : db.Grows before.db)
    (hold : before.db.functionAt? step.address = db.functionAt? step.address)
    (hgrows : after.db.Grows typed) : e.isDisowned platform db typed = step.isDisowned := by
  have hfunction : e.function? before.db = e.function? db := by
    have haddress : e.address? db = some step.address :=
      (address?_of_grows hstart e).symm.trans step.address?_eq
    rw [Entry.function?, step.address?_eq, Entry.function?, haddress]
    exact hold
  have hparams : Declared.params? typed e.cls e.decl = some step.params :=
    Declared.params?_of_grows (step.grows_resolved.trans hgrows) step.params_eq
  rw [Entry.isDisowned, ← hfunction, step.function?_before, hparams]
  rcases step.function_eq with ⟨-, hfound⟩ | ⟨-, hcreated, hnew⟩
  · rw [hfound]
    rfl
  · -- A function that was created has no parameters that could disagree.
    have hnil : step.function.params = [] := by
      rw [hcreated]
      rfl
    rw [hnew]
    simp [isDisowned, Reconciliation.signatureConflict?, Reconciliation.paramsConflict, hnil]

/-- If a run that keeps leaves the database of another such run as it is, then that one disowned no
entry. -/
lemma isDisowned_eq_false_of_each {list : List Entry} {first second : Progress}
    {log log' : Transcript} (hdistinct : (list.map Entry.offset).Nodup)
    (hfirst : (each (entry platform) list).Returns before log () first)
    (hlog : ∀ asked ∈ log, asked.2 = some .keepExisting)
    (hsecond : (each (entry platform) list).Returns { db := first.db } log' () second)
    (hlog' : ∀ asked ∈ log', asked.2 = some .keepExisting) (hsame : second.db = first.db)
    {e : Entry} (hmem : e ∈ list) : e.isDisowned platform before.db first.db = false := by
  obtain ⟨base, hbase⟩ := exists_imageBase_of_mem hfirst hmem
  have hbase' : first.db.imageBase = some base := (grows_of_returns_each hfirst).imageBase.trans hbase
  obtain ⟨start, finish, part, step, hstep, hgrows, hlater, hold, hresult, hpart⟩ :=
    exists_step_of_mem hfirst hbase hdistinct hmem
  obtain ⟨start', finish', part', later, hstep', hgrows', -, hold', hresult', hpart'⟩ :=
    exists_step_of_mem hsecond hbase' hdistinct hmem
  have haddress : later.address = step.address := by
    rw [Step.address, Step.address, hstep, hstep']
  rw [haddress] at hold' hresult'
  -- The second step begins with what the first one wrote, and it leaves it as it is.
  have hfound : start'.db.functionAt? later.address = some step.result := by
    rw [haddress, hold', hresult]
  have hfunction : later.function = step.result := by
    rcases later.function_eq with ⟨hyes, -⟩ | ⟨hno, -⟩
    · exact Option.some.inj (hyes.symm.trans hfound)
    · exact absurd (hno.symm.trans hfound) (by simp)
  have hparams : later.params = step.params := by
    have hthere : first.db.Grows later.resolved.db :=
      (hgrows'.trans later.located.grows).trans later.resolving.grows
    have hread := Declared.params?_of_grows ((step.grows_resolved.trans hlater).trans hthere)
      step.params_eq
    exact Option.some.inj (later.params_eq.symm.trans hread)
  have hunchanged : later.result = step.result := by
    rw [hsame, hresult] at hresult'
    exact (Option.some.inj hresult').symm
  rw [step.isDisowned_eq hgrows hold hlater]
  by_contra hdisowned
  exact step.result_ne_of_isDisowned (fun asked hasked => hlog asked (hpart hasked))
    (by simpa using hdisowned) later (fun asked hasked => hlog' asked (hpart' hasked)) hfunction
    hparams hunchanged

/-- After a run that keeps and disowns no entry, every signature is kept. -/
lemma kept_of_each {list : List Entry} {base : Int} (hdistinct : (list.map Entry.offset).Nodup)
    (h : (each (entry platform) list).Returns before log () after)
    (hlog : ∀ asked ∈ log, asked.2 = some .keepExisting)
    (hbase : before.db.imageBase = some base) {e : Entry} (hmem : e ∈ list)
    (howned : e.isDisowned platform before.db after.db = false) :
    ∃ function, after.db.functionAt? (base + e.offset) = some function ∧
      Kept platform e.cls e.decl after.db function := by
  obtain ⟨start, finish, part, step, hstep, hgrows, hlater, hold, hresult, hpart⟩ :=
    exists_step_of_mem h hbase hdistinct hmem
  have haddress : step.address = base + e.offset := by rw [Step.address, hstep]
  rw [step.isDisowned_eq hgrows hold hlater] at howned
  have hkept := step.kept_of_isDisowned_eq_false (fun asked hasked => hlog asked (hpart hasked))
    howned
  exact ⟨step.result, haddress ▸ hresult, hkept.of_grows hlater⟩

/-- If the entries have distinct offsets, and a run that answers every conflict by keeping came to
its end, then a second such run leaves the database as it is, and reports nothing, exactly if the
first one disowned no entry. -/
theorem keeps_again_iff {files : List Source} {db : Database} {progress : Progress}
    (hrun : (synchronize platform files db).runFixed .keepExisting = .done () progress)
    (hdistinct : ((entries platform files).map Entry.offset).Nodup) :
    (∃ warnings, (synchronize platform files progress.db).runFixed .keepExisting =
        .done () { db := progress.db, added := [], updated := [], warnings }) ↔
      ∀ e ∈ entries platform files, e.isDisowned platform db progress.db = false := by
  obtain ⟨log, hends, hlog⟩ := Dialogue.runFixed_eq_iff.1 hrun
  have hreturns := returns_each_of_returns_sources hends
  have hagain : synchronize platform files progress.db =
      each (entry platform) (entries platform files) { db := progress.db } := by
    rw [synchronize, sources_eq_each (readable_of_returns hends)]
  rw [hagain]
  constructor
  · rintro ⟨warnings, hsecond⟩ e hmem
    obtain ⟨log', hends', hlog'⟩ := Dialogue.runFixed_eq_iff.1 hsecond
    exact isDisowned_eq_false_of_each hdistinct hreturns hlog hends' hlog' rfl hmem
  · intro howned
    cases hentries : entries platform files with
    | nil => exact ⟨[], rfl⟩
    | cons first rest =>
      rw [hentries] at hreturns hdistinct howned
      obtain ⟨base, hbase⟩ := exists_imageBase_of_mem hreturns List.mem_cons_self
      have hbase' : progress.db.imageBase = some base :=
        (grows_of_returns_each hreturns).imageBase.trans hbase
      have hkept : ∀ e ∈ first :: rest, ∃ function,
          progress.db.functionAt? (base + e.offset) = some function ∧
            Kept platform e.cls e.decl progress.db function :=
        fun e hmem => kept_of_each hdistinct hreturns hlog hbase hmem (howned e hmem)
      obtain ⟨raised, hsilent⟩ := @runFixed_each_of_kept { db := progress.db } _ _ _ hbase' hkept
      exact ⟨raised, hsilent⟩

/-- The user's parameter of `update` in `playerDatabase` need not be placed, so that it is kept for
good. -/
theorem keeps_again_iff_player :
    ∃ progress warnings,
      (synchronize .windows [playerFile] playerDatabase).runFixed .keepExisting =
        .done () progress ∧
      ((entries .windows [playerFile]).map Entry.offset).Nodup ∧
      (∀ e ∈ entries .windows [playerFile],
        e.isDisowned .windows playerDatabase progress.db = false) ∧
      (synchronize .windows [playerFile] progress.db).runFixed .keepExisting =
        .done () { db := progress.db, added := [], updated := [], warnings } := by
  let run := (synchronize .windows [playerFile] playerDatabase).runFixed .keepExisting
  have hrun : run = .done () run.progress := Outcome.eq_done_of_isDone (by decide +kernel)
  have hdistinct : ((entries .windows [playerFile]).map Entry.offset).Nodup := by decide +kernel
  have howned : (entries .windows [playerFile]).all
      (fun e => !e.isDisowned .windows playerDatabase run.progress.db) = true := by decide +kernel
  have hall : ∀ e ∈ entries .windows [playerFile],
      e.isDisowned .windows playerDatabase run.progress.db = false := by
    simpa using howned
  obtain ⟨warnings, hagain⟩ := (keeps_again_iff hrun hdistinct).2 hall
  exact ⟨run.progress, warnings, hrun, hdistinct, hall, hagain⟩

/-- A database in which a user gave `update` a parameter that has to be placed. -/
def throttledDatabase : Database :=
  ({} : Database).putFunction
    { address := 0x400010, name := "update"
      params := [{ name := some "dt", type := .builtin ⟨"float", 4, true⟩ }] }

/-- The user's parameter of `update` is kept once, and given up by the second run without a
question. -/
theorem gives_up_kept_throttled :
    ∃ first second,
      (synchronize .windows [playerFile] throttledDatabase).runFixed .keepExisting =
        .done () first ∧
      ((entries .windows [playerFile]).map Entry.offset).Nodup ∧
      (synchronize .windows [playerFile] first.db).runFixed .keepExisting = .done () second ∧
      second.updated = ["Player::update"] ∧ second.db ≠ first.db := by
  let run := (synchronize .windows [playerFile] throttledDatabase).runFixed .keepExisting
  let again := (synchronize .windows [playerFile] run.progress.db).runFixed .keepExisting
  have hrun : run = .done () run.progress := Outcome.eq_done_of_isDone (by decide +kernel)
  have hagain : again = .done () again.progress := Outcome.eq_done_of_isDone (by decide +kernel)
  obtain ⟨hdistinct, hupdated, hchanged⟩ :
      ((entries .windows [playerFile]).map Entry.offset).Nodup ∧
        again.progress.updated = ["Player::update"] ∧ again.progress.db ≠ run.progress.db := by
    decide +kernel
  exact ⟨run.progress, again.progress, hrun, hdistinct, hagain, hupdated, hchanged⟩

end Sync

end BindingSync
