import BindingSync.Proofs.Sync.Entries
import BindingSync.Proofs.Sync.Introduction

/-!
# Runs that are cut short

A run that does not come to its end stops at one place: at a file that cannot be read, or at an
entry whose step stops (`Sync.cutShort_of_stops`).  All entries in front of that place had their
steps to the end.

A step stops for one of five reasons, and each of them says how far the step got
(`Sync.halted_of_stops`).  It writes the signature of its function as the very last thing, so a
step that stops wrote none: all that it may have done is to create the function, with its
namespaces, and to introduce types.
-/

namespace BindingSync

open BindingSync.Binding
open BindingSync.Text
open BindingSync.Dialogue (Transcript)

namespace Reconciliation

/-- Asking a conflict stops with the answer to it, which is an abort or missing. -/
lemma last_of_ends_keeps {conflict? : Option Conflict} {log : Transcript} {cause : Stop}
    (h : (keeps conflict?).Ends log (.error cause)) :
    ∃ conflict answer, conflict? = some conflict ∧ log = [(conflict, answer)] ∧
      ((answer = some .abort ∧ cause = .aborted conflict.location) ∨
        (answer = none ∧ cause = .failed (.unanswered conflict.location))) := by
  cases conflict? with
  | none => simp [keeps] at h
  | some conflict =>
    simp only [keeps, Dialogue.ends_ask_iff, Dialogue.ends_done_iff] at h
    obtain ⟨answer, rest, rfl, rfl, hanswer⟩ := h
    refine ⟨conflict, answer, rfl, rfl, ?_⟩
    cases answer with
    | none => exact .inr ⟨rfl, Except.error.inj hanswer⟩
    | some decision =>
      cases decision with
      | abort => exact .inl ⟨rfl, Except.error.inj hanswer⟩
      | useIncoming => cases hanswer
      | keepExisting => cases hanswer

/-- What a conflict about a signature is, and when there is one. -/
lemma signatureConflict?_eq_some {function : FunctionRecord} {incoming : List Parameter}
    {location : String} {isDestructor : Bool} {conflict : Conflict}
    (h : signatureConflict? function incoming location isDestructor = some conflict) :
    conflict.location = location ∧ conflict.kind = .signature ∧ isDestructor = false ∧
      paramsConflict function.params incoming = true := by
  unfold signatureConflict? at h
  split at h
  · next hconflict =>
    cases h
    exact ⟨rfl, rfl, by simpa using hconflict⟩
  · cases h

/-- A signature can only conflict where the function has parameters. -/
lemma of_signatureConflict? {function : FunctionRecord} {incoming : List Parameter}
    {location : String} {isDestructor : Bool} {conflict : Conflict}
    (h : signatureConflict? function incoming location isDestructor = some conflict) :
    conflict.location = location ∧ function.params ≠ [] := by
  obtain ⟨hlocation, -, -, hconflict⟩ := signatureConflict?_eq_some h
  refine ⟨hlocation, ?_⟩
  intro hnil
  rw [hnil] at hconflict
  simp [paramsConflict] at hconflict

/-- A return type can only conflict where the function has a return value. -/
lemma of_returnConflict? {function : FunctionRecord} {incoming : Option DataType}
    {location : String} {conflict : Conflict}
    (h : returnConflict? function incoming location = some conflict) :
    conflict.location = location ∧ function.returnValue ≠ none := by
  unfold returnConflict? at h
  split at h
  · next type existing hvalue =>
    split at h
    · cases h
      exact ⟨rfl, by simp [hvalue]⟩
    · cases h
  · cases h

/-- What a conflict about a return type is. -/
lemma kind_of_returnConflict? {function : FunctionRecord} {incoming : Option DataType}
    {location : String} {conflict : Conflict}
    (h : returnConflict? function incoming location = some conflict) :
    conflict.kind = .returnType := by
  unfold returnConflict? at h
  split at h
  · split at h
    · cases h
      rfl
    · cases h
  · cases h

/-- Reconciling stops only where the existing function has a signature, and with the answer to
its last conflict, which is an abort or missing. -/
lemma last_of_ends {function : FunctionRecord} {params : List Parameter}
    {returnType : Option DataType} {location : String} {isDestructor : Bool} {log : Transcript}
    {cause : Stop}
    (h : (reconcile function params returnType location isDestructor).Ends log (.error cause)) :
    (function.params ≠ [] ∨ function.returnValue ≠ none) ∧
      ∃ front conflict answer, log = front ++ [(conflict, answer)] ∧
        ((answer = some .abort ∧ cause = .aborted location) ∨
          (answer = none ∧ cause = .failed (.unanswered location))) := by
  simp only [reconcile, Dialogue.ends_bind_iff] at h
  obtain ⟨first, keptParams, rest, hfirst, hrest, rfl⟩ := h
  cases keptParams with
  | error stop =>
    obtain ⟨rfl, heq⟩ := Dialogue.ends_done_iff.1 hrest
    cases heq
    obtain ⟨conflict, answer, hconflict, rfl, hcause⟩ := last_of_ends_keeps hfirst
    obtain ⟨rfl, hparams⟩ := of_signatureConflict? hconflict
    exact ⟨.inl hparams, [], conflict, answer, rfl, hcause⟩
  | ok keepsParams =>
    obtain ⟨second, keptReturn, last, hsecond, hlast, rfl⟩ := Dialogue.ends_bind_iff.1 hrest
    cases keptReturn with
    | error stop =>
      obtain ⟨rfl, heq⟩ := Dialogue.ends_done_iff.1 hlast
      cases heq
      obtain ⟨conflict, answer, hconflict, rfl, hcause⟩ := last_of_ends_keeps hsecond
      obtain ⟨rfl, hvalue⟩ := of_returnConflict? hconflict
      exact ⟨.inr hvalue, first, conflict, answer, by simp, hcause⟩
    | ok keepsReturn =>
      obtain ⟨-, heq⟩ := Dialogue.ends_done_iff.1 hlast
      cases heq

end Reconciliation

namespace Sync

variable {before after : Progress} {log : Transcript} {cause : Stop}

/-! ### Steps -/

/-- How a step stops, and how far it got. -/
inductive Halted (platform : Platform) (cls : ClassDecl) (decl : FunctionDecl) (offset : Int)
    (before : Progress) : Transcript → Stop → Progress → Prop
  /-- Without an image base there is no address. -/
  | unplaced (hbase : before.db.imageBase = none) :
      Halted platform cls decl offset before [] (.crash .wrongKind) before
  /-- A locked database takes no new function. -/
  | refused {base : Int} (hbase : before.db.imageBase = some base)
      (hnone : before.db.functionAt? (base + offset) = none)
      (hlocked : before.db.isLocked = true) :
      Halted platform cls decl offset before []
        (.failed (.cannotCreate (base + offset) (cls.qualify decl))) before
  /-- A type expression has no name. -/
  | nameless {base : Int} {function : FunctionRecord} {isNew : Bool} {start after : Progress}
      {front : List TypeExpr} {expr : TypeExpr} {rest : List TypeExpr}
      {placeholders : List NamedType} (hbase : before.db.imageBase = some base)
      (located : Located cls decl (base + offset) before function isNew start)
      (hmentioned : Declared.mentioned cls decl = front ++ expr :: rest)
      (hname : expr.name.base = "") (introduces : Introduces front start after placeholders) :
      Halted platform cls decl offset before [] (.failed (.namelessType expr)) after
  /-- A conflict was answered with an abort, or not at all. -/
  | disagreed {base : Int} {function : FunctionRecord} {isNew : Bool} {start after : Progress}
      {placeholders : List NamedType} {params : List Parameter} {returnType : Option DataType}
      {log : Transcript} {cause : Stop} (hbase : before.db.imageBase = some base)
      (located : Located cls decl (base + offset) before function isNew start)
      (introduces : Introduces (Declared.mentioned cls decl) start after placeholders)
      (hends : (Reconciliation.reconcile function params returnType (cls.qualify decl)
        decl.isDestructor).Ends log (.error cause)) :
      Halted platform cls decl offset before log cause after
  /-- A parameter finds no place. -/
  | crowded {base : Int} {function : FunctionRecord} {isNew : Bool} {start typed : Progress}
      {placeholders : List NamedType} {params : List Parameter} {returnType : Option DataType}
      {log : Transcript} {agreed : Reconciliation} {raised : List Warning} {error : SyncError}
      (hbase : before.db.imageBase = some base)
      (located : Located cls decl (base + offset) before function isNew start)
      (introduces : Introduces (Declared.mentioned cls decl) start typed placeholders)
      (hends : (Reconciliation.reconcile function params returnType (cls.qualify decl)
        decl.isDestructor).Ends log (.ok agreed))
      (hplace : Allocation.place (CallingConvention.select platform
        (cls.isLinkedOn platform.tag) decl.dispatch) agreed.params (cls.qualify decl) =
          (raised, .error error)) :
      Halted platform cls decl offset before log (.failed error) (warned raised typed)

/-- Finding the address stops without an image base only. -/
lemma stops_addressOf_iff {offset : Int} :
    (addressOf offset).Stops before log cause after ↔
      log = [] ∧ before.db.imageBase = none ∧ cause = .crash .wrongKind ∧ after = before := by
  have hdatabase : database before = .done (.done before.db before) := rfl
  rw [Stops, addressOf, bind_of_done hdatabase]
  cases before.db.imageBase with
  | none => simp [stop]
  | some base => simp [pure_apply]

/-- Locating a function stops where it would have to be created in a locked database. -/
lemma stops_locate_iff {cls : ClassDecl} {decl : FunctionDecl} {address : Int} :
    (locate cls decl address).Stops before log cause after ↔
      log = [] ∧ before.db.functionAt? address = none ∧ before.db.isLocked = true ∧
        cause = .failed (.cannotCreate address (cls.qualify decl)) ∧ after = before := by
  rw [stops_of_done (locate_apply cls decl address before)]
  cases before.db.functionAt? address with
  | some function => simp
  | none => cases before.db.isLocked <;> simp [eq_comm]

/-- A dialogue that knows nothing of the progress leaves it as it is where it stops. -/
lemma stops_consult_iff {α : Type} {dialogue : Dialogue (Except Stop α)} :
    (consult dialogue).Stops before log cause after ↔
      dialogue.Ends log (.error cause) ∧ after = before := by
  simp only [Stops, consult, Dialogue.ends_bind_iff]
  constructor
  · rintro ⟨first, result, second, hends, hrest, rfl⟩
    cases result with
    | error early =>
      obtain ⟨rfl, hout⟩ := Dialogue.ends_done_iff.1 hrest
      cases hout
      exact ⟨by simpa using hends, rfl⟩
    | ok found => simp at hrest
  · rintro ⟨hends, rfl⟩
    exact ⟨log, .error cause, [], hends, .done _, by simp⟩

/-- Placing parameters stops where one of them finds no place. -/
lemma crowded_of_stops {convention : Option CallingConvention} {location : String}
    {params : List Parameter}
    (h : (placed convention params location).Stops before log cause after) :
    ∃ raised error, log = [] ∧ cause = .failed error ∧ after = warned raised before ∧
      Allocation.place convention params location = (raised, .error error) := by
  unfold placed at h
  split at h
  · rcases stops_bind_iff.1 h with hstop | ⟨_, _, between, _, hwarn, hstop, rfl⟩
    · exact absurd ((stops_of_done rfl).1 hstop).2 (by simp)
    · obtain ⟨rfl, -, rfl⟩ := (returns_of_done rfl).1 hwarn
      split at hstop
      · exact absurd hstop not_stops_pure
      · next error herror =>
        obtain ⟨rfl, hout⟩ := (stops_of_done rfl).1 hstop
        cases hout
        exact ⟨_, error, rfl, rfl, rfl, Prod.ext rfl herror⟩
  · exact absurd h not_stops_pure

/-- A step resolves its incoming signature before it asks anything. -/
lemma addressed_eq (platform : Platform) (cls : ClassDecl) (decl : FunctionDecl) (offset : Int) :
    addressed platform cls decl offset = (do
      let address ← addressOf offset
      let (function, isNew) ← locate cls decl address
      let (returnType, params) ← incoming cls decl
      let agreed ← consult (Reconciliation.reconcile function params returnType (cls.qualify decl)
        decl.isDestructor)
      let convention :=
        CallingConvention.select platform (cls.isLinkedOn platform.tag) decl.dispatch
      let (params, mode) ← placed convention agreed.params (cls.qualify decl)
      let after := function.withSignature (convention.map (·.databaseName)) agreed.returnType params
        mode .analysis
      setDatabase ((← database).putFunction after)
      note isNew function after (cls.qualify decl)) := by
  simp only [addressed, incoming, bind_assoc, pure_bind]

/-- A step that stops does so for one of the five reasons. -/
theorem halted_of_stops {platform : Platform} {cls : ClassDecl} {decl : FunctionDecl}
    {offset : Int} (h : (addressed platform cls decl offset).Stops before log cause after) :
    Halted platform cls decl offset before log cause after := by
  rw [addressed_eq] at h
  rcases stops_bind_iff.1 h with hstop | ⟨_, address, _, _, haddress, h₁, rfl⟩
  · obtain ⟨rfl, hbase, rfl, rfl⟩ := stops_addressOf_iff.1 hstop
    exact .unplaced hbase
  obtain ⟨rfl, rfl, base, hbase, rfl⟩ := returns_addressOf_iff.1 haddress
  rcases stops_bind_iff.1 h₁ with hstop | ⟨_, ⟨function, isNew⟩, start, _, hlocate, h₂, rfl⟩
  · obtain ⟨rfl, hnone, hlocked, rfl, rfl⟩ := stops_locate_iff.1 hstop
    exact .refused hbase hnone hlocked
  obtain ⟨rfl, located⟩ := located_of_returns hlocate
  rcases stops_bind_iff.1 h₂ with hstop | ⟨_, ⟨returnType, params⟩, typed, _, htyped, h₃, rfl⟩
  · obtain ⟨rfl, front, expr, rest, placeholders, hmentioned, hname, rfl, introduces⟩ :=
      (resolves_incoming cls decl).stops hstop
    exact .nameless hbase located hmentioned hname introduces
  obtain ⟨rfl, placeholders, introduces⟩ := (resolves_incoming cls decl).returns htyped
  rcases stops_bind_iff.1 h₃ with hstop | ⟨_, agreed, consulted, _, hconsult, h₄, rfl⟩
  · obtain ⟨hends, rfl⟩ := stops_consult_iff.1 hstop
    exact .disagreed hbase located introduces hends
  obtain ⟨hends, rfl⟩ := returns_consult_iff.1 hconsult
  rcases stops_bind_iff.1 h₄ with hstop | ⟨_, ⟨result, mode⟩, _, _, hplaced, h₅, rfl⟩
  · obtain ⟨raised, error, rfl, rfl, rfl, hplace⟩ := crowded_of_stops hstop
    simpa using Halted.crowded hbase located introduces hends hplace
  · exact absurd ((stops_of_done (write_apply _ _ _ _ _)).1 h₅).2 (by simp)

/-- A step that is aborted has introduced types and done nothing else: its function was there
before, because a new one has no signature to disagree with. -/
lemma introduces_of_stops_aborted {platform : Platform} {cls : ClassDecl} {decl : FunctionDecl}
    {offset : Int} {location : String}
    (h : (addressed platform cls decl offset).Stops before log (.aborted location) after) :
    location = cls.qualify decl ∧
      ∃ placeholders, Introduces (Declared.mentioned cls decl) before after placeholders := by
  generalize hcause : Stop.aborted location = cause at h
  cases halted_of_stops h with
  | disagreed _ located introduces hends =>
    obtain ⟨hsignature, _, _, _, -, ⟨-, rfl⟩ | ⟨-, rfl⟩⟩ := Reconciliation.last_of_ends hends
    · cases hcause
      cases located with
      | found _ => exact ⟨rfl, _, introduces⟩
      | created _ _ => simp [newFunction] at hsignature
    · cases hcause
  | _ => cases hcause

/-! ### Runs -/

/-- Doing one thing after the other stops at one of the things, and all that stand in front of
it were done. -/
lemma exists_of_stops_each {α : Type} {part : α → Sync Unit} {list : List α}
    (h : (each part list).Stops before log cause after) :
    ∃ handled a rest first last between, list = handled ++ a :: rest ∧ log = first ++ last ∧
      (each part handled).Returns before first () between ∧
        (part a).Stops between last cause after := by
  induction list generalizing before log with
  | nil => exact absurd h not_stops_pure
  | cons a rest ih =>
    rcases stops_bind_iff.1 h with hstop | ⟨first, _, between, second, hfirst, hstop, rfl⟩
    · exact ⟨[], a, rest, [], log, before, rfl, rfl, returns_pure_iff.2 ⟨rfl, rfl, rfl⟩, hstop⟩
    · obtain ⟨handled, b, rest, middle, last, between', rfl, rfl, hhandled, hstop⟩ := ih hstop
      refine ⟨a :: handled, b, rest, first ++ middle, last, between', rfl, by simp, ?_, hstop⟩
      exact returns_bind_iff.2 ⟨first, (), between, middle, hfirst, hhandled, rfl⟩

/-- A binding file cannot be read, for a reason. -/
inductive Source.Refuses (file : Source) : Stop → Prop
  | missing {cause : Stop} (htext : file.text = .error cause) : Refuses file cause
  | unparsable {text : String} {error : ParseError} (htext : file.text = .ok text)
      (hparse : parse text = .error error) :
      Refuses file (.failed (.unparsable file.label error))

/-- How a run is cut short, and how far it got. -/
inductive CutShort (platform : Platform) (files : List Source) (before : Progress) :
    Transcript → Stop → Progress → Prop
  /-- A file could not be read. -/
  | atFile {handled rest : List Entry} {file : Source} {log : Transcript} {cause : Stop}
      {after : Progress} (hentries : entries platform files = handled ++ rest)
      (hfile : file ∈ files) (hrefuses : file.Refuses cause)
      (hhandled : (each (entry platform) handled).Returns before log () after) :
      CutShort platform files before log cause after
  /-- The step of an entry stopped. -/
  | atEntry {handled rest : List Entry} {e : Entry} {first last : Transcript} {cause : Stop}
      {between after : Progress} (hentries : entries platform files = handled ++ e :: rest)
      (hhandled : (each (entry platform) handled).Returns before first () between)
      (hstops : (entry platform e).Stops between last cause after) :
      CutShort platform files before (first ++ last) cause after

/-- A file that cannot be read stops the run. -/
lemma isReadable_or_refuses (platform : Platform) (file : Source) :
    file.IsReadable ∨ ∃ cause, file.Refuses cause ∧ source platform file = stop cause := by
  cases htext : file.text with
  | error cause =>
    refine .inr ⟨cause, .missing htext, ?_⟩
    rw [source, htext]
  | ok text =>
    cases hparse : parse text with
    | error error =>
      refine .inr ⟨_, .unparsable htext hparse, ?_⟩
      rw [source, htext]
      simp only [hparse]
    | ok classes =>
      refine .inl ⟨text, htext, ?_⟩
      rw [hparse, Source.classes, htext]
      simp only [hparse]

/-- A run that stops is cut short at a file or at an entry. -/
theorem cutShort_of_stops {platform : Platform} {files : List Source}
    (h : (sources platform files).Stops before log cause after) :
    CutShort platform files before log cause after := by
  obtain ⟨front, file, rest, first, last, between, rfl, rfl, hfront, hstop⟩ :=
    exists_of_stops_each h
  have hhandled := returns_each_of_returns_sources hfront
  have hentries : entries platform (front ++ file :: rest) = entries platform front ++
      (file.classes.flatMap (entriesOf platform) ++ entries platform rest) := by
    simp [entries]
  rcases isReadable_or_refuses platform file with hreadable | ⟨refusal, hrefuses, hsource⟩
  · rw [source_eq_each hreadable] at hstop
    obtain ⟨handled, e, later, middle, tail, between', hsplit, rfl, hsteps, hstop⟩ :=
      exists_of_stops_each hstop
    have hall : (each (entry platform) (entries platform front ++ handled)).Returns before
        (first ++ middle) () between' := by
      rw [each_append]
      exact returns_bind_iff.2 ⟨first, (), between, middle, hhandled, hsteps, rfl⟩
    have hentries' : entries platform (front ++ file :: rest) =
        entries platform front ++ handled ++ e :: (later ++ entries platform rest) := by
      rw [hentries, hsplit]
      simp
    rw [← List.append_assoc]
    exact .atEntry hentries' hall hstop
  · rw [hsource] at hstop
    obtain ⟨rfl, hout⟩ := (stops_of_done rfl).1 hstop
    cases hout
    rw [List.append_nil]
    exact .atFile hentries (by simp) hrefuses hhandled

/-- What the steps of all entries keep, those that come to their end and those that stop, a run
keeps however it ends. -/
theorem invariant_of_ends {platform : Platform} {files : List Source} {db : Database}
    {outcome : Outcome Unit} {P : Progress → Prop}
    (hstep : ∀ e ∈ entries platform files, ∀ {before log after},
      Step platform e.cls e.decl e.offset before log after → P before → P after)
    (hhalted : ∀ e ∈ entries platform files, ∀ {before log cause after},
      Halted platform e.cls e.decl e.offset before log cause after → P before → P after)
    (hends : (synchronize platform files db).Ends log outcome) (hbefore : P { db }) :
    P outcome.progress := by
  cases outcome with
  | done _ progress =>
    exact invariant_of_returns_each hstep (returns_each_of_returns_sources hends) hbefore
  | stopped cause progress =>
    cases cutShort_of_stops hends with
    | atFile hentries _ _ hhandled =>
      rw [hentries] at hstep
      exact invariant_of_returns_each (fun e hmem => hstep e (List.mem_append_left _ hmem))
        hhandled hbefore
    | atEntry hentries hhandled hstops =>
      rw [hentries] at hstep hhalted
      exact hhalted _ (by simp) (halted_of_stops hstops) <| invariant_of_returns_each
        (fun e hmem => hstep e (List.mem_append_left _ hmem)) hhandled hbefore

end Sync

end BindingSync
