import BindingSync.Proofs.Fallible
import BindingSync.Proofs.Sync.Transcript

/-!
# What reconciling and placing give

Two parts of a step do not touch the database.  Reconciling may ask up to two conflicts; it
gives the incoming signature, except for what was answered by keeping the existing one
(`Reconciliation.cases_of_ends`).  Where no piece of the existing signature is by the user's
hand there is nothing to ask (`Reconciliation.reconcile_of_analysis`).

Placing parameters gives the same parameters by name and type, all of them from analysis and
with a storage (`Allocation.shape_place`), or it fails.  Names and types are also all that it
looks at (`Allocation.place_congr`).
-/

namespace BindingSync

open BindingSync.Text
open BindingSync.Dialogue (Transcript)

namespace Reconciliation

/-- Asking one possible conflict ends without a stop if there is none, or if it is answered by
one of the two values. -/
lemma ends_keeps_iff {conflict? : Option Conflict} {log : Transcript} {kept : Bool} :
    (keeps conflict?).Ends log (.ok kept) ↔
      (conflict? = none ∧ log = [] ∧ kept = false) ∨
        ∃ conflict decision, conflict? = some conflict ∧ log = [(conflict, some decision)] ∧
          decision ≠ .abort ∧ kept = decide (decision = .keepExisting) := by
  cases conflict? with
  | none => simp [keeps]
  | some conflict =>
    simp only [keeps, Dialogue.ends_ask_iff, Dialogue.ends_done_iff]
    constructor
    · rintro ⟨answer, _, rfl, rfl, hkept⟩
      cases answer with
      | none => cases hkept
      | some decision =>
        cases decision <;> simp at hkept <;> simp [hkept]
    · rintro (⟨h, -⟩ | ⟨_, decision, ⟨⟩, rfl, habort, rfl⟩)
      · cases h
      · refine ⟨some decision, [], rfl, rfl, ?_⟩
        cases decision <;> simp_all

/-- Reconciling without a stop gives what comes in, apart from what is kept, and something is
kept only where a conflict was answered so. -/
lemma cases_of_ends {function : FunctionRecord} {params : List Parameter}
    {returnType : Option DataType} {location : String} {isDestructor : Bool} {log : Transcript}
    {agreed : Reconciliation}
    (h : (reconcile function params returnType location isDestructor).Ends log (.ok agreed)) :
    ∃ keepsParams keepsReturn first second,
      (keeps (signatureConflict? function params location isDestructor)).Ends first
        (.ok keepsParams) ∧
      (keeps (returnConflict? function returnType location)).Ends second (.ok keepsReturn) ∧
      log = first ++ second ∧
      agreed.params = (if keepsParams then function.params else params) ∧
      agreed.returnType = (if keepsReturn then none else returnType) := by
  simp only [reconcile, Dialogue.ends_bind_iff] at h
  obtain ⟨first, keptParams, rest, hfirst, hrest, rfl⟩ := h
  cases keptParams with
  | error stop => simp at hrest
  | ok keepsParams =>
    obtain ⟨second, keptReturn, last, hsecond, hlast, rfl⟩ := Dialogue.ends_bind_iff.1 hrest
    cases keptReturn with
    | error stop => simp at hlast
    | ok keepsReturn =>
      obtain ⟨rfl, heq⟩ := Dialogue.ends_done_iff.1 hlast
      cases heq
      exact ⟨keepsParams, keepsReturn, first, second, hfirst, hsecond, by simp, rfl, rfl⟩

/-- What holds of the existing signature and of the incoming one holds of what is agreed on. -/
lemma forall_of_ends {function : FunctionRecord} {params : List Parameter}
    {returnType : Option DataType} {location : String} {isDestructor : Bool} {log : Transcript}
    {agreed : Reconciliation} {P : Parameter → Prop} {Q : DataType → Prop}
    (hexisting : ∀ param ∈ function.params, P param) (hparams : ∀ param ∈ params, P param)
    (hreturn : ∀ type ∈ returnType, Q type)
    (h : (reconcile function params returnType location isDestructor).Ends log (.ok agreed)) :
    (∀ param ∈ agreed.params, P param) ∧ ∀ type ∈ agreed.returnType, Q type := by
  obtain ⟨keepsParams, keepsReturn, _, _, -, -, -, hagreed, hagreedReturn⟩ := cases_of_ends h
  rw [hagreed, hagreedReturn]
  constructor
  · split
    · exact hexisting
    · exact hparams
  · split
    · simp
    · exact hreturn

/-- Where no conflict is answered by keeping, what comes in is agreed on. -/
lemma eq_incoming_of_ends {function : FunctionRecord} {params : List Parameter}
    {returnType : Option DataType} {location : String} {isDestructor : Bool} {log : Transcript}
    {agreed : Reconciliation}
    (h : (reconcile function params returnType location isDestructor).Ends log (.ok agreed))
    (hlog : ∀ entry ∈ log, entry.2 ≠ some .keepExisting) :
    agreed.params = params ∧ agreed.returnType = returnType := by
  obtain ⟨keepsParams, keepsReturn, first, second, h₁, h₂, rfl, hparams, hreturn⟩ :=
    cases_of_ends h
  have hfalse : ∀ {conflict? kept log'}, (keeps conflict?).Ends log' (.ok kept) →
      (∀ entry ∈ log', entry.2 ≠ some .keepExisting) → kept = false := by
    intro conflict? kept log' hends hall
    rcases ends_keeps_iff.1 hends with ⟨-, -, rfl⟩ | ⟨conflict, decision, -, rfl, -, rfl⟩
    · rfl
    · simpa using hall
  rw [hparams, hreturn, hfalse h₁ fun e he => hlog e (List.mem_append_left _ he),
    hfalse h₂ fun e he => hlog e (List.mem_append_right _ he)]
  exact ⟨rfl, rfl⟩

/-- Parameters that are not by the user's hand do not conflict with as many others. -/
lemma paramsConflict_eq_false {existing incoming : List Parameter}
    (hlength : existing.length = incoming.length)
    (hsource : ∀ param ∈ existing, param.source = .analysis) :
    paramsConflict existing incoming = false := by
  have hnone : ∀ pair ∈ existing.zip incoming, paramConflicts pair.1 pair.2 = false := by
    rintro ⟨a, b⟩ hmem
    simp [paramConflicts, hsource a (List.of_mem_zip hmem).1]
  rw [paramsConflict, hlength, decide_eq_false (Nat.lt_irrefl _), Bool.false_or]
  exact List.any_eq_false.2 fun pair hmem => by simp [hnone pair hmem]

/-- Nothing is asked about a signature of the right length that comes from analysis. -/
lemma reconcile_of_analysis {function : FunctionRecord} {params : List Parameter}
    {returnType : Option DataType} (location : String) (isDestructor : Bool)
    (hlength : function.params.length = params.length)
    (hparams : ∀ param ∈ function.params, param.source = .analysis)
    (hreturn : ∀ type value, returnType = some type → function.returnValue = some value →
      value.source = .analysis) :
    reconcile function params returnType location isDestructor =
      .done (.ok { params, returnType, conflicts := [] }) := by
  have hsignature : signatureConflict? function params location isDestructor = none := by
    simp [signatureConflict?, paramsConflict_eq_false hlength hparams]
  have hresult : returnConflict? function returnType location = none := by
    unfold returnConflict?
    split
    · next _ _ type value hvalue => simp [hreturn type value rfl hvalue]
    · rfl
  simp [reconcile, hsignature, hresult, keeps, Dialogue.bind]

end Reconciliation

namespace Allocation

/-- The name and the type of a parameter, which is what a declaration says of it. -/
def shape (param : Parameter) : Option WideString × DataType :=
  (param.name, param.type)

section PlaceFrom

variable {convention : Option CallingConvention} {location : String} {index : Nat} {offset : Int}
  {warnings : List Warning} {result : List Parameter}

/-- The first parameter is placed in a register, and the offset stays, or it is placed on the stack
at the offset, which moves on. -/
lemma placeFrom_cons {param advance : Parameter} {rest : List (Parameter × Parameter)}
    (h : placeFrom convention location index offset ((param, advance) :: rest) =
      (warnings, .ok result)) :
    ∃ storage others raised next,
      result = { param with storage := some storage, source := .analysis } :: others ∧
      placeFrom convention location (index + 1) next rest = (raised, .ok others) ∧
      ((∃ name : String, register? convention location index param.type = .ok (some name) ∧
          storage = .register name ∧ next = offset) ∨
        storage = .stack offset param.type.length ∧ next = offset + advance.type.length) := by
  rw [placeFrom] at h
  split at h
  · cases h
  · next name hregister =>
    obtain ⟨-, hresult⟩ := Prod.mk.inj h
    obtain ⟨others, hothers, rfl⟩ := exists_of_map_eq_ok hresult
    exact ⟨.register name, others, _, offset, rfl, Prod.ext rfl hothers,
      .inl ⟨name, hregister, rfl, rfl⟩⟩
  · obtain ⟨-, hresult⟩ := Prod.mk.inj h
    obtain ⟨others, hothers, rfl⟩ := exists_of_map_eq_ok hresult
    exact ⟨.stack offset param.type.length, others, _, _, rfl, Prod.ext rfl hothers,
      .inr ⟨rfl, rfl⟩⟩

/-- Placing keeps names and types, and every placed parameter is from analysis and has a
storage. -/
lemma shape_placeFrom {pairs : List (Parameter × Parameter)}
    (h : placeFrom convention location index offset pairs = (warnings, .ok result)) :
    result.map shape = pairs.map (fun pair => shape pair.1) ∧
      ∀ param ∈ result, param.source = .analysis ∧ param.storage.isSome := by
  induction pairs generalizing index offset warnings result with
  | nil =>
    cases h
    simp
  | cons pair rest ih =>
    obtain ⟨storage, others, raised, next, rfl, hrest, -⟩ := placeFrom_cons h
    obtain ⟨hshape, hall⟩ := ih hrest
    exact ⟨by simpa [shape] using hshape, by simpa using hall⟩

end PlaceFrom

/-- Moving structures behind all other parameters keeps their number. -/
lemma length_structsLast (params : List Parameter) :
    (structsLast params).length = params.length := by
  rw [structsLast, List.length_append, Nat.add_comm,
    ← List.length_eq_length_filter_add fun param : Parameter => param.type.isStruct]

/-- Placing the parameters of a function keeps their names and types, and every one of them is
then from analysis and has a storage. -/
lemma shape_place {convention : Option CallingConvention} {location : String}
    {params result : List Parameter} {warnings : List Warning}
    (h : place convention params location = (warnings, .ok result)) :
    result.map shape = params.map shape ∧
      ∀ param ∈ result, param.source = .analysis ∧ param.storage.isSome := by
  obtain ⟨hshape, hall⟩ := shape_placeFrom h
  refine ⟨hshape.trans ?_, hall⟩
  have hfirst := List.map_fst_zip (Nat.le_of_eq (length_structsLast params).symm)
  calc (params.zip (structsLast params)).map (fun pair => shape pair.1)
      = ((params.zip (structsLast params)).map Prod.fst).map shape := by rw [List.map_map]; rfl
    _ = params.map shape := by rw [hfirst]

/-- Whether parameters have to be placed depends on their types only. -/
lemma isNeeded_congr {convention : Option CallingConvention} {params params' : List Parameter}
    (h : params.map shape = params'.map shape) :
    isNeeded convention params = isNeeded convention params' := by
  have hany : ∀ list : List Parameter,
      (list.any fun param => param.type.isStruct || param.type.isFloat) =
        (list.map shape).any fun pair => pair.2.isStruct || pair.2.isFloat := by
    intro list
    rw [List.any_map]
    rfl
  rw [isNeeded, hany, h, ← hany, isNeeded]

/-- What is placed depends on names and types only. -/
lemma placeFrom_congr {convention : Option CallingConvention} {location : String}
    {pairs pairs' : List (Parameter × Parameter)} {index : Nat} {offset : Int}
    (h : pairs.map (fun pair => (shape pair.1, pair.2.type)) =
      pairs'.map fun pair => (shape pair.1, pair.2.type)) :
    placeFrom convention location index offset pairs =
      placeFrom convention location index offset pairs' := by
  induction pairs generalizing pairs' index offset with
  | nil =>
    rw [List.map_eq_nil_iff.1 h.symm]
  | cons pair rest ih =>
    obtain ⟨⟨param', advance'⟩, rest', rfl, hpair, hrest⟩ := List.map_eq_cons_iff.1 h.symm
    obtain ⟨⟨name, type, source, storage⟩, advance⟩ := pair
    obtain ⟨name', type', source', storage'⟩ := param'
    simp only [shape, Prod.mk.injEq] at hpair
    obtain ⟨⟨rfl, rfl⟩, hadvance⟩ := hpair
    simp only [placeFrom, hadvance, ih hrest.symm]

/-- Moving structures behind all other parameters looks at their types only. -/
lemma map_type_structsLast (params : List Parameter) :
    (structsLast params).map Parameter.type =
      (params.map Parameter.type).filter (!·.isStruct) ++
        (params.map Parameter.type).filter (·.isStruct) := by
  rw [structsLast, List.map_append, List.filter_map, List.filter_map]
  rfl

/-- Placing depends on names and types only. -/
lemma place_congr {convention : Option CallingConvention} {location : String}
    {params params' : List Parameter} (h : params.map shape = params'.map shape) :
    place convention params location = place convention params' location := by
  have htypes : params.map Parameter.type = params'.map Parameter.type := by
    have hsnd := congrArg (List.map Prod.snd) h
    rwa [List.map_map, List.map_map] at hsnd
  have hlast : (structsLast params).map Parameter.type =
      (structsLast params').map Parameter.type := by
    rw [map_type_structsLast, htypes, ← map_type_structsLast]
  have hzip : ∀ list : List Parameter,
      (list.zip (structsLast list)).map (fun pair => (shape pair.1, pair.2.type)) =
        (list.map shape).zip ((structsLast list).map Parameter.type) := by
    intro list
    rw [List.zip_map]
    rfl
  apply placeFrom_congr
  rw [hzip, hzip, h, hlast]

/-- The warnings of placing are about parameters of unknown length. -/
lemma warnings_placeFrom {convention : Option CallingConvention} {location : String}
    {pairs : List (Parameter × Parameter)} {index : Nat} {offset : Int} :
    ∀ warning ∈ (placeFrom convention location index offset pairs).1,
      ∃ param, warning = .undefinedParameter location param := by
  induction pairs generalizing index offset with
  | nil => simp [placeFrom]
  | cons pair rest ih =>
    obtain ⟨param, advance⟩ := pair
    rw [placeFrom]
    split
    · simp
    · exact ih
    · intro warning hmem
      rcases List.mem_append.1 hmem with hmem | hmem
      · split at hmem
        · exact ⟨param.name, by simpa using hmem⟩
        · simp at hmem
      · exact ih warning hmem

end Allocation

end BindingSync
