import BindingSync.Proofs.Sync.Authorship
import BindingSync.Proofs.Sync.Failures

/-!
# The slot of a return value

A function that returns a structure by value has a hidden parameter for it, behind `this`.  A step
puts it in by the declared return type, before any conflict is decided; to keep another return type
than the declared one is to keep nothing else.  So where the parameters of the declaration are
taken, the slot is that of the declared type, and it is that of the stored one as long as the two
types are the same, or neither of them is a structure (`Sync.hasSlotFor_iff_of_ends`).
`Sync.lacks_slot_layer` shows a function whose structure has nowhere to go.
-/

namespace BindingSync

open BindingSync.Binding
open BindingSync.Text
open BindingSync.Dialogue (Transcript)

namespace Sync

variable {before after : Progress} {log : Transcript} {platform : Platform} {cls : ClassDecl}
  {decl : FunctionDecl} {offset : Int}

/-! ### Slots -/

/-- Two types have the same slot if they are the same, or if neither of them has one. -/
lemma map_shape_retParams_inj {type other : DataType} :
    (retParams (some type)).map Allocation.shape = (retParams (some other)).map Allocation.shape ↔
      type = other ∨ type.isStruct = false ∧ other.isStruct = false := by
  by_cases heq : type = other
  · simp [heq]
  · cases htype : type.isStruct <;> cases hother : other.isStruct <;>
      simp [retParams, htype, hother, Allocation.shape, heq]

/-- By names and types, the function has the parameters of the declaration with the slot of the
given return type: `this` unless the function is static, `ret` if the type is a structure, and the
written parameters. -/
def Entry.HasSlotFor (db : Database) (e : Entry) (function : FunctionRecord) (type : DataType) :
    Prop :=
  ∃ this written, Declared.thisParams? db e.cls e.decl = some this ∧
    Declared.writtenParams? db e.decl.params = some written ∧
    function.params.map Allocation.shape =
      (this ++ retParams (some type) ++ written).map Allocation.shape

/-- A function has the slots of two types if these are the same. -/
lemma Entry.HasSlotFor.iff {db : Database} {e : Entry} {function : FunctionRecord}
    {type : DataType} (h : e.HasSlotFor db function type) (other : DataType) :
    e.HasSlotFor db function other ↔
      other = type ∨ other.isStruct = false ∧ type.isStruct = false := by
  obtain ⟨this, written, hthis, hwritten, hparams⟩ := h
  rw [← map_shape_retParams_inj]
  constructor
  · rintro ⟨this', written', hthis', hwritten', hother⟩
    obtain rfl : this = this' := Option.some.inj (hthis.symm.trans hthis')
    obtain rfl : written = written' := Option.some.inj (hwritten.symm.trans hwritten')
    have hlists := hother.symm.trans hparams
    simpa using hlists
  · intro hslots
    refine ⟨this, written, hthis, hwritten, ?_⟩
    rw [hparams, List.map_append, List.map_append, List.map_append, List.map_append, hslots]

namespace Step

/-- Where no signature is kept, the declared parameters are agreed on. -/
lemma agreed_params_of_not_kept (step : Step platform cls decl offset before log after)
    (hkept : ∀ asked ∈ log, asked.1.kind = .signature → asked.2 ≠ some .keepExisting) :
    step.agreed.params = step.params := by
  obtain ⟨keepsParams, _, first, second, hfirst, -, rfl, hparams, -⟩ :=
    Reconciliation.cases_of_ends step.agrees
  rcases Reconciliation.ends_keeps_iff.1 hfirst with
    ⟨-, -, rfl⟩ | ⟨conflict, decision, hconflict, rfl, -, rfl⟩
  · exact hparams
  · have hkind := (Reconciliation.signatureConflict?_eq_some hconflict).2.1
    have hdecision : decision ≠ .keepExisting := by
      simpa using hkept (conflict, some decision) (by simp) hkind
    simpa [hdecision] using hparams

/-- Only destructors have no return type. -/
lemma exists_returnType (step : Step platform cls decl offset before log after)
    (hwell : decl.WellFormed) (hdestructor : decl.isDestructor = false) :
    ∃ type, step.returnType = some type := by
  rw [hwell.isDestructor_eq, Option.isNone_eq_false_iff, Option.isSome_iff_exists] at hdestructor
  obtain ⟨expr, hexpr⟩ := hdestructor
  have hread := step.returnType_eq
  rw [Declared.returnType?, hexpr] at hread
  obtain ⟨type, -, htype⟩ := Option.map_eq_some_iff.1 hread
  exact ⟨type, htype.symm⟩

/-- After a step the function returns the declared type, or what it returned was kept. -/
lemma exists_returnValue (step : Step platform cls decl offset before log after) {type : DataType}
    (htype : step.returnType = some type) :
    ∃ value, step.result.returnValue = some value ∧
      (value.type = type ∨
        ∃ conflict, (conflict, some .keepExisting) ∈ log ∧ conflict.kind = .returnType) := by
  obtain ⟨_, keepsReturn, first, second, -, hsecond, rfl, -, hreturn⟩ :=
    Reconciliation.cases_of_ends step.agrees
  have hvalue := step.returnValue_eq
  rw [hreturn, htype] at hvalue
  cases keepsReturn with
  | false => exact ⟨⟨type, .analysis⟩, hvalue, .inl rfl⟩
  | true =>
    rcases Reconciliation.ends_keeps_iff.1 hsecond with
      ⟨-, -, hkept⟩ | ⟨conflict, decision, hconflict, rfl, -, hkept⟩
    · cases hkept
    · have hdecision : decision = .keepExisting := of_decide_eq_true hkept.symm
      obtain ⟨value, hfunction⟩ := Option.ne_none_iff_exists'.1
        (Reconciliation.of_returnConflict? hconflict).2
      exact ⟨value, hvalue.trans hfunction, .inr ⟨conflict, by simp [hdecision],
        Reconciliation.kind_of_returnConflict? hconflict⟩⟩

/-- A step that keeps no signature writes the parameters of the declaration, with the slot of the
declared return type. -/
lemma hasSlotFor_returnType {e : Entry}
    (step : Step platform e.cls e.decl e.offset before log after) {db : Database}
    (hgrows : after.db.Grows db)
    (hkept : ∀ asked ∈ log, asked.1.kind = .signature → asked.2 ≠ some .keepExisting)
    {type : DataType} (htype : step.returnType = some type) :
    e.HasSlotFor db step.result type := by
  have hfinal := step.grows_resolved.trans hgrows
  obtain ⟨returnType, this, written, hreturn, hthis, hwritten, hparams⟩ :=
    Declared.params?_eq_some_iff.1 step.params_eq
  obtain rfl : step.returnType = returnType :=
    Option.some.inj (step.returnType_eq.symm.trans hreturn)
  refine ⟨this, written, Declared.thisParams?_of_grows hfinal hthis,
    Declared.writtenParams?_of_grows hfinal hwritten, ?_⟩
  rw [step.map_shape, step.agreed_params_of_not_kept hkept, hparams, htype]

end Step

/-! ### Runs -/

/-- After a run that came to its end, a declaration other than a destructor whose signature was not
kept has the parameters that are declared, with the slot of the declared return type.  This is the
slot of the return type in the database if and only if that is the declared one or neither of them
is a structure; it is the declared one unless it was kept. -/
theorem hasSlotFor_iff_of_ends {files : List Source} {front back : List Entry} {e : Entry}
    {db : Database} {progress : Progress}
    (hends : (synchronize platform files db).Ends log (.done () progress))
    (hentries : entries platform files = front ++ e :: back)
    (hfresh : e.offset ∉ (front ++ back).map Entry.offset)
    (hdestructor : e.decl.isDestructor = false)
    (hkept : ∀ part, HandledIn platform front e db log part →
      ∀ asked ∈ part, asked.1.kind = .signature → asked.2 ≠ some .keepExisting) :
    ∃ function value declared, e.function? progress.db = some function ∧
      function.returnValue = some value ∧
      Declared.returnType? progress.db e.decl = some (some declared) ∧
      e.HasSlotFor progress.db function declared ∧
      (e.HasSlotFor progress.db function value.type ↔
        value.type = declared ∨ value.type.isStruct = false ∧ declared.isStruct = false) ∧
      (value.type = declared ∨ ∃ part conflict, HandledIn platform front e db log part ∧
        (conflict, some .keepExisting) ∈ part ∧ conflict.kind = .returnType) := by
  obtain ⟨came⟩ := cameThrough_of_ends hends hentries hfresh
  have hfinal := came.step.grows_resolved.trans came.grows
  have hreturn := Declared.returnType?_of_grows hfinal came.step.returnType_eq
  have hmem : e ∈ entries platform files := by
    rw [hentries]
    simp
  obtain ⟨hcls, hdecl⟩ := wellFormed_of_mem_entries hmem
  obtain ⟨declared, hdeclared⟩ := came.step.exists_returnType (hcls.functions e.decl hdecl)
    hdestructor
  rw [hdeclared] at hreturn
  have hslot := came.step.hasSlotFor_returnType came.grows (hkept came.part came.handled) hdeclared
  obtain ⟨value, hvalue, hsource⟩ := came.step.exists_returnValue hdeclared
  refine ⟨came.step.result, value, declared, came.stays, hvalue, hreturn, hslot,
    hslot.iff value.type, hsource.imp_right ?_⟩
  rintro ⟨conflict, hmem, hkind⟩
  exact ⟨came.part, conflict, came.handled, hmem, hkind⟩

/-- A binding file that says of a function that it returns a number. -/
def layerFile : Source where
  label := "layer.bro"
  text := .ok "class Layer \x7b\n  virtual int getPosition(int mode) = win 0x40;\n\x7d\n"

/-- A structure of eight bytes. -/
def pointType : NamedType where
  kind := .struct
  path := ⟨[], .plain "CCPoint"⟩
  length := 8

/-- A database in which a user said that the function returns the structure. -/
def layerDatabase : Database :=
  (({} : Database).addType pointType).putFunction
    { address := 0x400040, name := "getPosition"
      returnValue := some ⟨.named pointType, .userDefined⟩ }

/-- In the run of `layerFile` over `layerDatabase` in which the declared return type is taken, the
function has the slot of a number, which is none. -/
theorem hasSlotFor_iff_of_ends_layer :
    ∃ (log : Transcript) (progress : Progress) (e : Entry),
      (synchronize .windows [layerFile] layerDatabase).Ends log (.done () progress) ∧
      log.map (fun asked => (asked.1.kind, asked.2)) = [(.returnType, some .useIncoming)] ∧
      entries .windows [layerFile] = [] ++ e :: [] ∧
      e.offset ∉ (([] : List Entry) ++ []).map Entry.offset ∧ e.decl.isDestructor = false ∧
      (∀ part, HandledIn .windows [] e layerDatabase log part →
        ∀ asked ∈ part, asked.1.kind = .signature → asked.2 ≠ some .keepExisting) ∧
      ∃ function value declared, e.function? progress.db = some function ∧
        function.returnValue = some value ∧
        Declared.returnType? progress.db e.decl = some (some declared) ∧
        e.HasSlotFor progress.db function declared ∧
        (e.HasSlotFor progress.db function value.type ↔
          value.type = declared ∨ value.type.isStruct = false ∧ declared.isStruct = false) ∧
        (value.type = declared ∨ ∃ part conflict, HandledIn .windows [] e layerDatabase log part ∧
          (conflict, some .keepExisting) ∈ part ∧ conflict.kind = .returnType) := by
  let run := (synchronize .windows [layerFile] layerDatabase).runFixed .useIncoming
  let log := (synchronize .windows [layerFile] layerDatabase).transcriptFixed .useIncoming
  have hends : (synchronize .windows [layerFile] layerDatabase).Ends log run :=
    Dialogue.ends_transcriptFixed .useIncoming _
  obtain ⟨e, hentries⟩ := List.length_eq_one_iff.1
    (show (entries .windows [layerFile]).length = 1 by decide +kernel)
  obtain ⟨hdone, hlog, hdestructors⟩ : run.isDone = true ∧
      log.map (fun asked => (asked.1.kind, asked.2)) = [(.returnType, some .useIncoming)] ∧
      ∀ e ∈ entries .windows [layerFile], e.decl.isDestructor = false := by
    decide +kernel
  have hdestructor := hdestructors e (by rw [hentries]; simp)
  have hreturns : (synchronize .windows [layerFile] layerDatabase).Ends log
      (.done () run.progress) := by
    rw [← Outcome.eq_done_of_isDone hdone]
    exact hends
  have hkept : ∀ part, HandledIn .windows [] e layerDatabase log part →
      ∀ asked ∈ part, asked.1.kind = .signature → asked.2 ≠ some .keepExisting := by
    rintro part ⟨first, last, _, _, hparts, -⟩ asked hmem -
    have hin : (asked.1.kind, asked.2) ∈ log.map fun asked => (asked.1.kind, asked.2) :=
      List.mem_map_of_mem (by rw [hparts]; simp [hmem])
    rw [hlog, List.mem_singleton] at hin
    rw [congrArg Prod.snd hin]
    decide
  exact ⟨log, run.progress, e, hreturns, hlog, hentries, by simp, hdestructor, hkept,
    hasSlotFor_iff_of_ends hreturns hentries (by simp) hdestructor hkept⟩

/-- The user's return type is kept, nothing is asked about the signature, and the declared
parameters are taken: the function returns a structure by value and has no slot for it. -/
theorem lacks_slot_layer :
    ∃ (log : Transcript) (progress : Progress) (e : Entry) (function : FunctionRecord)
        (value : ReturnValue),
      (synchronize .windows [layerFile] layerDatabase).Ends log (.done () progress) ∧
      log.map (fun asked => (asked.1.kind, asked.2)) = [(.returnType, some .keepExisting)] ∧
      entries .windows [layerFile] = [e] ∧ e.decl.isDestructor = false ∧
      e.function? progress.db = some function ∧ function.returnValue = some value ∧
      value.type.isStruct = true ∧
      function.params.map Parameter.name = [some (.plain "this"), some (.plain "mode")] ∧
      ¬e.HasSlotFor progress.db function value.type := by
  let run := (synchronize .windows [layerFile] layerDatabase).runFixed .keepExisting
  let log := (synchronize .windows [layerFile] layerDatabase).transcriptFixed .keepExisting
  have hends : (synchronize .windows [layerFile] layerDatabase).Ends log run :=
    Dialogue.ends_transcriptFixed .keepExisting _
  obtain ⟨e, hentries⟩ := List.length_eq_one_iff.1
    (show (entries .windows [layerFile]).length = 1 by decide +kernel)
  obtain ⟨hdone, hlog, hfacts⟩ : run.isDone = true ∧
      log.map (fun asked => (asked.1.kind, asked.2)) = [(.returnType, some .keepExisting)] ∧
      ∀ e ∈ entries .windows [layerFile], e.decl.isDestructor = false ∧
        (e.function? run.progress.db).map (fun function =>
            (function.returnValue, function.params.map Parameter.name)) =
          some (some ⟨.named pointType, .userDefined⟩,
            [some (.plain "this"), some (.plain "mode")]) := by
    decide +kernel
  obtain ⟨hdestructor, hstored⟩ := hfacts e (by rw [hentries]; simp)
  obtain ⟨function, hfunction, hpair⟩ := Option.map_eq_some_iff.1 hstored
  obtain ⟨hvalue, hnames⟩ := Prod.mk.inj hpair
  have hreturns : (synchronize .windows [layerFile] layerDatabase).Ends log
      (.done () run.progress) := by
    rw [← Outcome.eq_done_of_isDone hdone]
    exact hends
  refine ⟨log, run.progress, e, function, ⟨.named pointType, .userDefined⟩, hreturns, hlog,
    hentries, hdestructor, hfunction, hvalue, rfl, hnames, ?_⟩
  rintro ⟨this, written, -, -, hparams⟩
  -- A list with the slot has a parameter of its name, and the stored list has none.
  have hret : some (.plain "ret") ∈ function.params.map Parameter.name := by
    have hfirst := congrArg (List.map Prod.fst) hparams
    rw [List.map_map, List.map_map] at hfirst
    rw [show Parameter.name = Prod.fst ∘ Allocation.shape from rfl, hfirst]
    simp [retParams, show (DataType.named pointType).isStruct = true from rfl, Allocation.shape]
  rw [hnames] at hret
  simp at hret

end Sync

end BindingSync
