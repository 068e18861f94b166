import BindingSync.Proofs.Sync.Fate

/-!
# What a user wrote

Parameters by the user's hand are worth a question before they are replaced.  Where none was asked,
they agree with the declaration by their types, and by their names where both have one
(`Reconciliation.agrees_of_userDefined`).  The list is replaced nevertheless, but by one that says
the same of them; so it comes out in the database with the types that the user gave, and with the
names, whatever happens in the rest of the run (`Sync.exists_stored_of_userDefined`).

There is one exception.  A declared parameter without a name agrees with every name, and replaces
it: a name that the user gave to such a parameter is gone, and nobody was asked
(`Sync.loses_name_alarm`).
-/

namespace BindingSync

open BindingSync.Binding
open BindingSync.Text
open BindingSync.Dialogue (Transcript)

namespace Reconciliation

/-- Where there is no conflict, the parameters by the user's hand have counterparts of the same
type, and of the same name unless one of the two has none. -/
lemma agrees_of_userDefined {existing incoming : List Parameter}
    (h : paramsConflict existing incoming = false) {index : Nat} {param : Parameter}
    (hparam : existing[index]? = some param) (hsource : param.source = .userDefined) :
    ∃ declared, incoming[index]? = some declared ∧ declared.type = param.type ∧
      ∀ name, param.name = some name → declared.name = some name ∨ declared.name = none := by
  obtain ⟨hlength, hpairs⟩ := Bool.or_eq_false_iff.1 h
  have hindex : index < incoming.length := by
    have hbound := (List.getElem?_eq_some_iff.1 hparam).1
    have hshorter := of_decide_eq_false hlength
    omega
  obtain ⟨declared, hdeclared⟩ : ∃ declared, incoming[index]? = some declared :=
    ⟨_, List.getElem?_eq_getElem hindex⟩
  have hmem : (param, declared) ∈ existing.zip incoming :=
    List.mem_of_getElem? (List.getElem?_zip_eq_some.2 ⟨hparam, hdeclared⟩)
  have hagree : paramConflicts param declared = false := by
    simpa using List.any_eq_false.1 hpairs _ hmem
  simp only [paramConflicts, hsource, decide_true, Bool.true_and, Bool.or_eq_false_iff] at hagree
  obtain ⟨htype, hnames⟩ := hagree
  refine ⟨declared, hdeclared, (by simpa using htype : param.type = declared.type).symm, ?_⟩
  intro name hname
  rw [hname] at hnames
  cases hother : declared.name with
  | none => exact .inr rfl
  | some other =>
    rw [hother] at hnames
    have hsame : name = other := by simpa [namesDiffer] using hnames
    exact .inl (by rw [hsame])

end Reconciliation

namespace Sync

variable {before after : Progress} {log : Transcript} {platform : Platform} {cls : ClassDecl}
  {decl : FunctionDecl} {offset : Int}

namespace Step

variable (step : Step platform cls decl offset before log after)

/-- A step that asks nothing about its signature has no conflict there. -/
lemma signatureConflict?_eq_none (hasked : ∀ asked ∈ log, asked.1.kind ≠ .signature) :
    Reconciliation.signatureConflict? step.function step.params (cls.qualify decl)
      decl.isDestructor = none := by
  obtain ⟨_, _, first, second, hkeeps, -, rfl, -, -⟩ := Reconciliation.cases_of_ends step.agrees
  rcases Reconciliation.ends_keeps_iff.1 hkeeps with ⟨hnone, -, -⟩ | ⟨conflict, _, hsome, rfl, -, -⟩
  · exact hnone
  · obtain ⟨-, hkind, -, -⟩ := Reconciliation.signatureConflict?_eq_some hsome
    exact absurd hkind (hasked (conflict, _) (List.mem_append_left _ (List.mem_singleton_self _)))

/-- Without a conflict the declared parameters are agreed on. -/
lemma agreed_params_of_none (hnone : Reconciliation.signatureConflict? step.function step.params
    (cls.qualify decl) decl.isDestructor = none) : step.agreed.params = step.params := by
  obtain ⟨keepsParams, _, _, _, hkeeps, -, -, hparams, -⟩ :=
    Reconciliation.cases_of_ends step.agrees
  rw [hnone] at hkeeps
  rcases Reconciliation.ends_keeps_iff.1 hkeeps with ⟨-, -, rfl⟩ | ⟨_, _, hsome, -⟩
  · exact hparams
  · cases hsome

end Step

/-- The parameter at the index is declared, and it has no name. -/
def Entry.IsUnnamedAt (typed : Database) (e : Entry) (index : Nat) : Prop :=
  ∃ params declared, Declared.params? typed e.cls e.decl = some params ∧
    params[index]? = some declared ∧ declared.name = none

/-- What a user wrote of a parameter still stands in a stored one: the type, and the name unless the
declared parameter has none. -/
structure Entry.Honours (typed : Database) (e : Entry) (index : Nat) (param stored : Parameter) :
    Prop where
  type : stored.type = param.type
  name : ∀ name, param.name = some name →
    stored.name = some name ∨ stored.name = none ∧ e.IsUnnamedAt typed index

/-- A step that asks nothing about its signature honours what the user wrote of the parameters. -/
lemma Step.exists_stored_of_not_asked {e : Entry} {typed : Database}
    (step : Step platform e.cls e.decl e.offset before log after)
    (hdestructor : e.decl.isDestructor = false) (hgrows : after.db.Grows typed)
    (hasked : ∀ asked ∈ log, asked.1.kind ≠ .signature) {index : Nat} {param : Parameter}
    (hparam : step.function.params[index]? = some param)
    (hsource : param.source = .userDefined) :
    ∃ stored, step.result.params[index]? = some stored ∧
      e.Honours typed index param stored := by
  have hnone := step.signatureConflict?_eq_none hasked
  have hagreed := step.agreed_params_of_none hnone
  have hfree : Reconciliation.paramsConflict step.function.params step.params = false := by
    simpa [Reconciliation.signatureConflict?, hdestructor] using hnone
  obtain ⟨declared, hdeclared, htype, hname⟩ :=
    Reconciliation.agrees_of_userDefined hfree hparam hsource
  have hshape : (step.result.params[index]?).map Allocation.shape =
      some (Allocation.shape declared) := by
    rw [← List.getElem?_map, step.map_shape, hagreed, List.getElem?_map, hdeclared]
    rfl
  obtain ⟨stored, hstored, hsame⟩ := Option.map_eq_some_iff.1 hshape
  obtain ⟨hstoredName, hstoredType⟩ := Prod.mk.inj hsame
  have hparams : Declared.params? typed e.cls e.decl = some step.params :=
    Declared.params?_of_grows (step.grows_resolved.trans hgrows) step.params_eq
  refine ⟨stored, hstored, hstoredType.trans htype, ?_⟩
  intro name hparamName
  rw [hstoredName]
  rcases hname name hparamName with hsome | hunnamed
  · exact .inl hsome
  · exact .inr ⟨hunnamed, step.params, declared, hparams, hdeclared, hunnamed⟩

/-- If no signature conflict was asked for a declaration other than a destructor, and no other
declaration is at its address, then after the run, however it ended, every parameter of its function
that was by the user's hand stands at its index with the type that it had, and with the name unless
it is declared without one. -/
theorem exists_stored_of_userDefined {files : List Source} {front back : List Entry} {e : Entry}
    {db : Database} {outcome : Outcome Unit} {function : FunctionRecord}
    (hends : (synchronize platform files db).Ends log outcome)
    (hentries : entries platform files = front ++ e :: back)
    (hfresh : e.offset ∉ (front ++ back).map Entry.offset)
    (hdestructor : e.decl.isDestructor = false) (hfunction : e.function? db = some function)
    (hasked : ∀ part, HandledIn platform front e db log part →
      ∀ asked ∈ part, asked.1.kind ≠ .signature) :
    ∃ new, e.function? outcome.progress.db = some new ∧
      ∀ index param, function.params[index]? = some param → param.source = .userDefined →
        ∃ stored, new.params[index]? = some stored ∧
          e.Honours outcome.progress.db index param stored := by
  rcases fate_of_ends hends hentries hfresh with ⟨⟨came⟩⟩ | hsame
  · refine ⟨came.step.result, came.stays, ?_⟩
    intro index param hparam hsource
    have hfound : came.step.function = function := by
      have hbegins := came.step.function?_before.symm.trans (came.begins.trans hfunction)
      cases hnew : came.step.isNew with
      | true => simp [hnew] at hbegins
      | false => simpa [hnew] using hbegins
    rw [← hfound] at hparam
    exact came.step.exists_stored_of_not_asked hdestructor came.grows
      (hasked came.part came.handled) hparam hsource
  · refine ⟨function, hsame function hfunction, ?_⟩
    intro index param hparam hsource
    exact ⟨param, hparam, rfl, fun name hname => .inl hname⟩

/-- A binding file that names the first of two parameters only. -/
def alarmFile : Source where
  label := "alarm.bro"
  text := .ok "class gd::Alarm \x7b\n  static void set(int hour, int) = win 0x30;\n\x7d\n"

/-- A database in which a user named both of them. -/
def alarmDatabase : Database :=
  ({} : Database).putFunction
    { address := 0x400030, name := "set"
      params := ["hour", "minute"].map fun name =>
        { name := some (.plain name), type := .builtin ⟨"int", 4, false⟩ } }

/-- The run of `alarmFile` over `alarmDatabase` asks nothing, so that both parameters keep their
types, and the first one its name. -/
theorem exists_stored_of_userDefined_alarm :
    ∃ outcome e function new,
      (synchronize .windows [alarmFile] alarmDatabase).Ends [] outcome ∧
      entries .windows [alarmFile] = [] ++ e :: [] ∧
      e.offset ∉ (([] : List Entry) ++ []).map Entry.offset ∧
      e.decl.isDestructor = false ∧ e.function? alarmDatabase = some function ∧
      (∀ part, HandledIn .windows [] e alarmDatabase [] part →
        ∀ asked ∈ part, asked.1.kind ≠ .signature) ∧
      e.function? outcome.progress.db = some new ∧
      (function.params.map fun param => param.source) = [.userDefined, .userDefined] ∧
      (new.params.map fun param => param.name) = [some (.plain "hour"), none] ∧
      ∀ index param, function.params[index]? = some param → param.source = .userDefined →
        ∃ stored, new.params[index]? = some stored ∧
          e.Honours outcome.progress.db index param stored := by
  let run := (synchronize .windows [alarmFile] alarmDatabase).runFixed .abort
  have hends : (synchronize .windows [alarmFile] alarmDatabase).Ends [] run :=
    Dialogue.ends_runFixed_of_isSilent (by decide +kernel) .abort
  obtain ⟨e, hentries⟩ := List.length_eq_one_iff.1
    (show (entries .windows [alarmFile]).length = 1 by decide +kernel)
  have hfacts : ∀ e ∈ entries .windows [alarmFile], e.decl.isDestructor = false ∧
      (e.function? alarmDatabase).map (fun function => function.params.map Parameter.source) =
        some [.userDefined, .userDefined] ∧
      (e.function? run.progress.db).map (fun function => function.params.map Parameter.name) =
        some [some (.plain "hour"), none] := by
    decide +kernel
  obtain ⟨hdestructor, hsources, hnames⟩ := hfacts e (by rw [hentries]; simp)
  obtain ⟨function, hfunction, hauthors⟩ := Option.map_eq_some_iff.1 hsources
  have hasked : ∀ part, HandledIn .windows [] e alarmDatabase [] part →
      ∀ asked ∈ part, asked.1.kind ≠ .signature := by
    rintro part ⟨first, last, between, outcome, hlog, -⟩ asked hmem
    obtain ⟨-, rfl, -⟩ : first = [] ∧ part = [] ∧ last = [] := by simpa using hlog.symm
    cases hmem
  have hcut : entries .windows [alarmFile] = [] ++ e :: [] := hentries
  obtain ⟨new, hnew, hhonours⟩ :=
    exists_stored_of_userDefined hends hcut (by simp) hdestructor hfunction hasked
  have hstored : (new.params.map fun param => param.name) = [some (.plain "hour"), none] := by
    rw [hnew] at hnames
    exact Option.some.inj hnames
  exact ⟨run, e, function, new, hends, hentries, by simp, hdestructor, hfunction, hasked, hnew,
    hauthors, hstored, hhonours⟩

/-- The name that the user gave to the second parameter is gone, and nothing was asked. -/
theorem loses_name_alarm :
    ∃ outcome e,
      (synchronize .windows [alarmFile] alarmDatabase).Ends [] outcome ∧
      outcome.isDone = true ∧ entries .windows [alarmFile] = [e] ∧
      e.decl.isDestructor = false ∧
      (e.function? alarmDatabase).map (fun function =>
          function.params.map fun param => (param.name, param.source)) =
        some [(some (.plain "hour"), .userDefined), (some (.plain "minute"), .userDefined)] ∧
      (e.function? outcome.progress.db).map (fun function => function.params.map Parameter.name) =
        some [some (.plain "hour"), none] := by
  let run := (synchronize .windows [alarmFile] alarmDatabase).runFixed .abort
  have hends : (synchronize .windows [alarmFile] alarmDatabase).Ends [] run :=
    Dialogue.ends_runFixed_of_isSilent (by decide +kernel) .abort
  obtain ⟨e, hentries⟩ := List.length_eq_one_iff.1
    (show (entries .windows [alarmFile]).length = 1 by decide +kernel)
  have hfacts : ∀ e ∈ entries .windows [alarmFile], run.isDone = true ∧
      e.decl.isDestructor = false ∧
      (e.function? alarmDatabase).map (fun function =>
          function.params.map fun param => (param.name, param.source)) =
        some [(some (.plain "hour"), .userDefined), (some (.plain "minute"), .userDefined)] ∧
      (e.function? run.progress.db).map (fun function => function.params.map Parameter.name) =
        some [some (.plain "hour"), none] := by
    decide +kernel
  obtain ⟨hdone, hdestructor, hold, hnew⟩ := hfacts e (by rw [hentries]; simp)
  exact ⟨run, e, hends, hdone, hentries, hdestructor, hold, hnew⟩

end Sync

end BindingSync
