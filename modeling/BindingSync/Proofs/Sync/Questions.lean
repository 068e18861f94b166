import BindingSync.Proofs.Sync.CutShort

/-!
# What reconciling asks

Whoever decides, reconciling a function asks at most two conflicts: one about its parameters, and
after it one about its return type.  When each of them is asked is told by the two signatures alone
(`SignatureDiffers`, `ReturnTypeDiffers`), apart from an end that the first answer makes.

What comes out is all or nothing: a whole parameter list, and a return type or none, or else the end
of the run.  The database is not touched in either case (`Reconciliation.course_of_reconcile`).
-/

namespace BindingSync

open BindingSync.Text
open BindingSync.Dialogue (Transcript)

namespace Reconciliation

open BindingSync.Dialogue (AnsweredBy)

variable {function : FunctionRecord} {params : List Parameter} {returnType : Option DataType}
  {location : String} {isDestructor : Bool} {before : Progress} {log first second : Transcript}

/-! ### When there is something to ask -/

/-- A parameter by the user's hand has another type than the incoming one at its place, or another
name where both have one. -/
def HasOverruled (existing incoming : List Parameter) : Prop :=
  ∃ (index : Nat) (old new : Parameter),
    existing[index]? = some old ∧ incoming[index]? = some new ∧ old.source = .userDefined ∧
    (old.type ≠ new.type ∨
      ∃ name other, old.name = some name ∧ new.name = some other ∧ name ≠ other)

/-- The parameters of a function disagree with the incoming ones; those of a destructor never
do. -/
def SignatureDiffers (function : FunctionRecord) (params : List Parameter)
    (isDestructor : Bool) : Prop :=
  isDestructor = false ∧
    (params.length < function.params.length ∨ HasOverruled function.params params)

/-- There is a return type by the user's hand, and another one comes in. -/
def ReturnTypeDiffers (function : FunctionRecord) (returnType : Option DataType) : Prop :=
  ∃ type value, returnType = some type ∧ function.returnValue = some value ∧
    value.source = .userDefined ∧ value.type ≠ type

/-- Two parameters conflict if the first is by the user's hand and the second overrules it. -/
lemma paramConflicts_iff {old new : Parameter} :
    paramConflicts old new = true ↔ old.source = .userDefined ∧
      (old.type ≠ new.type ∨
        ∃ name other, old.name = some name ∧ new.name = some other ∧ name ≠ other) := by
  have hnames : namesDiffer old.name new.name = true ↔
      ∃ name other, old.name = some name ∧ new.name = some other ∧ name ≠ other := by
    unfold namesDiffer
    split
    · next name other hname hother => simp [hname, hother]
    · next hnone =>
      simp only [Bool.false_eq_true, false_iff]
      rintro ⟨name, other, hname, hother, -⟩
      exact hnone name other hname hother
  simp only [paramConflicts, Bool.and_eq_true, decide_eq_true_eq, Bool.or_eq_true, bne_iff_ne,
    hnames]

/-- Two parameter lists conflict if the first is longer, or if one of its members is
overruled. -/
lemma paramsConflict_iff {existing incoming : List Parameter} :
    paramsConflict existing incoming = true ↔
      incoming.length < existing.length ∨ HasOverruled existing incoming := by
  rw [paramsConflict, Bool.or_eq_true, decide_eq_true_eq, List.any_eq_true]
  refine or_congr_right ?_
  constructor
  · rintro ⟨⟨old, new⟩, hmem, hconflict⟩
    obtain ⟨index, hindex⟩ := List.mem_iff_getElem?.1 hmem
    obtain ⟨hold, hnew⟩ := List.getElem?_zip_eq_some.1 hindex
    exact ⟨index, old, new, hold, hnew, paramConflicts_iff.1 hconflict⟩
  · rintro ⟨index, old, new, hold, hnew, hdiffer⟩
    have hpair : (existing.zip incoming)[index]? = some (old, new) :=
      List.getElem?_zip_eq_some.2 ⟨hold, hnew⟩
    exact ⟨(old, new), List.mem_of_getElem? hpair, paramConflicts_iff.2 hdiffer⟩

/-- The conflict about the parameters is there if they disagree, and it shows both lists. -/
lemma mem_signatureConflict?_iff {conflict : Conflict} :
    conflict ∈ signatureConflict? function params location isDestructor ↔
      SignatureDiffers function params isDestructor ∧
        conflict = ⟨location, .signature, Parameter.renderList params,
          Parameter.renderList function.params⟩ := by
  have hdiffers : (!isDestructor && paramsConflict function.params params) = true ↔
      SignatureDiffers function params isDestructor := by
    rw [Bool.and_eq_true, Bool.not_eq_true', paramsConflict_iff, SignatureDiffers]
  unfold signatureConflict?
  split
  · next h => simp [hdiffers.1 h, eq_comm]
  · next h => simp [mt hdiffers.2 h]

/-- The conflict about the return type is there if it disagrees, and it shows both types. -/
lemma mem_returnConflict?_iff {conflict : Conflict} :
    conflict ∈ returnConflict? function returnType location ↔
      ∃ type value, returnType = some type ∧ function.returnValue = some value ∧
        value.source = .userDefined ∧ value.type ≠ type ∧
        conflict = ⟨location, .returnType, type.render, value.type.render⟩ := by
  unfold returnConflict?
  split
  · next type value hvalue =>
    split
    · next h => simp [hvalue, h.1, Ne.symm h.2, eq_comm]
    · next h =>
      simp only [Option.not_mem_none, hvalue, Option.some.injEq, false_iff]
      rintro ⟨_, _, rfl, rfl, hsource, hne, -⟩
      exact h ⟨hsource, hne⟩
  · next hnone =>
    simp only [Option.not_mem_none, false_iff]
    rintro ⟨type, value, htype, hvalue, -⟩
    exact hnone type value htype hvalue

/-! ### What is asked, and what comes of it -/

/-- The answer settles a conflict in one of the two ways. -/
def Settles (answer : Option Decision) : Prop :=
  answer = some .useIncoming ∨ answer = some .keepExisting

/-- A conflict about the part was answered by keeping what is there. -/
def keptIn (log : Transcript) (part : ConflictKind) : Bool :=
  log.any fun entry => decide (entry.1.kind = part ∧ entry.2 = some .keepExisting)

/-- The conflicts of the transcript are the ones that there is a reason to ask. -/
structure Asks (function : FunctionRecord) (params : List Parameter)
    (returnType : Option DataType) (location : String) (isDestructor : Bool)
    (log : Transcript) : Prop where
  /-- Each part is asked about once at most, the parameters first. -/
  order : (log.map fun entry => entry.1.kind).Sublist [.signature, .returnType]
  /-- A question about the parameters shows both lists. -/
  shows_params : ∀ entry ∈ log, entry.1.kind = .signature →
    entry.1 = ⟨location, .signature, Parameter.renderList params,
      Parameter.renderList function.params⟩
  /-- A question about the return type shows both types. -/
  shows_types : ∀ entry ∈ log, entry.1.kind = .returnType →
    ∃ type value, returnType = some type ∧ function.returnValue = some value ∧
      entry.1 = ⟨location, .returnType, type.render, value.type.render⟩
  /-- The parameters are asked about if and only if they disagree. -/
  signature_iff : (∃ entry ∈ log, entry.1.kind = .signature) ↔
    SignatureDiffers function params isDestructor
  /-- The return type is asked about if and only if it disagrees and the question in front of it
  was settled. -/
  returnType_iff : (∃ entry ∈ log, entry.1.kind = .returnType) ↔
    ReturnTypeDiffers function returnType ∧
      ∀ entry ∈ log, entry.1.kind = .signature → Settles entry.2

/-- What reconciling comes to under a transcript, with the progress as it was. -/
inductive Gives (function : FunctionRecord) (params : List Parameter)
    (returnType : Option DataType) (location : String) (before : Progress) (log : Transcript) :
    Outcome Reconciliation → Prop
  /-- All questions were settled: what comes in is taken over, but for what is kept. -/
  | agreed (hsettled : ∀ entry ∈ log, Settles entry.2) :
      Gives function params returnType location before log (.done
        { params := if keptIn log .signature then function.params else params
          returnType := if keptIn log .returnType then none else returnType
          conflicts := log.map Prod.fst } before)
  /-- The last question was answered with an abort. -/
  | aborted {front : Transcript} {conflict : Conflict}
      (hlog : log = front ++ [(conflict, some .abort)]) :
      Gives function params returnType location before log (.stopped (.aborted location) before)
  /-- The last question was not answered. -/
  | unanswered {front : Transcript} {conflict : Conflict}
      (hlog : log = front ++ [(conflict, none)]) :
      Gives function params returnType location before log
        (.stopped (.failed (.unanswered location)) before)

/-- Asking one possible conflict asks it if it is there, and once. -/
lemma map_fst_of_ends_keeps {conflict? : Option Conflict} {result : Except Stop Bool}
    (h : (keeps conflict?).Ends log result) : log.map Prod.fst = conflict?.toList := by
  cases conflict? with
  | none =>
    obtain ⟨rfl, -⟩ := Dialogue.ends_done_iff.1 h
    rfl
  | some conflict =>
    obtain ⟨answer, rest, rfl, hrest⟩ := Dialogue.ends_ask_iff.1 h
    obtain ⟨rfl, -⟩ := Dialogue.ends_done_iff.1 hrest
    rfl

/-- It goes on with a settled conflict, and keeps what is there if the answer says so. -/
lemma settles_of_ends_keeps {conflict? : Option Conflict} {kept : Bool}
    (h : (keeps conflict?).Ends log (.ok kept)) :
    (∀ entry ∈ log, Settles entry.2) ∧
      kept = log.any fun entry => decide (entry.2 = some .keepExisting) := by
  rcases ends_keeps_iff.1 h with ⟨-, rfl, rfl⟩ | ⟨conflict, decision, -, rfl, habort, rfl⟩
  · simp
  · cases decision with
    | abort => exact absurd rfl habort
    | useIncoming => simp [Settles]
    | keepExisting => simp [Settles]

/-- It does not go on with a conflict that is not settled. -/
lemma not_settles_of_ends_keeps {conflict? : Option Conflict} {cause : Stop}
    (h : (keeps conflict?).Ends log (.error cause)) : ¬ ∀ entry ∈ log, Settles entry.2 := by
  obtain ⟨conflict, answer, -, rfl, ⟨rfl, -⟩ | ⟨rfl, -⟩⟩ := last_of_ends_keeps h
  · simp [Settles]
  · simp [Settles]

/-- Every question of a transcript is among the conflicts of which it is made. -/
lemma mem_of_map_fst {conflict? : Option Conflict} (h : log.map Prod.fst = conflict?.toList) :
    ∀ entry ∈ log, entry.1 ∈ conflict? := by
  intro entry hmem
  have hfst : entry.1 ∈ conflict?.toList := h ▸ List.mem_map_of_mem hmem
  exact Option.mem_toList.1 hfst

/-- A question is there if its conflict is. -/
lemma exists_of_map_fst {conflict? : Option Conflict} (h : log.map Prod.fst = conflict?.toList)
    {conflict : Conflict} (hconflict : conflict ∈ conflict?) :
    ∃ entry ∈ log, entry.1 = conflict := by
  have hmem : conflict ∈ log.map Prod.fst := h ▸ Option.mem_toList.2 hconflict
  exact List.mem_map.1 hmem

/-- The kinds of at most one question. -/
lemma sublist_kinds {conflict? : Option Conflict} (h : log.map Prod.fst = conflict?.toList)
    {part : ConflictKind} (hpart : ∀ conflict ∈ conflict?, conflict.kind = part) :
    (log.map fun entry => entry.1.kind).Sublist [part] := by
  have hkinds : (log.map fun entry => entry.1.kind) = conflict?.toList.map Conflict.kind := by
    rw [← h, List.map_map]
    rfl
  rw [hkinds]
  cases conflict? with
  | none => exact List.nil_sublist _
  | some conflict => rw [Option.toList_some, List.map_singleton, hpart conflict rfl]

/-- What is kept of a part is told by the questions about it. -/
lemma keptIn_of_kinds {part : ConflictKind} (h : ∀ entry ∈ log, entry.1.kind = part) :
    keptIn log part = log.any fun entry => decide (entry.2 = some .keepExisting) := by
  rw [keptIn, Bool.eq_iff_iff, List.any_eq_true, List.any_eq_true]
  refine exists_congr fun entry => and_congr_right fun hmem => ?_
  simp [h entry hmem]

/-- What is kept is kept in one of two transcripts. -/
lemma keptIn_append {part : ConflictKind} :
    keptIn (first ++ second) part = (keptIn first part || keptIn second part) :=
  List.any_append

/-- Nothing is kept of a part about which there is no question. -/
lemma keptIn_eq_false {part : ConflictKind} (h : ∀ entry ∈ log, entry.1.kind ≠ part) :
    keptIn log part = false := by
  refine List.any_eq_false.2 fun entry hmem => ?_
  simp [h entry hmem]

/-- The two parts of a transcript: about the parameters, and then about the return type unless the
first part was the end. -/
structure Parts (function : FunctionRecord) (params : List Parameter)
    (returnType : Option DataType) (location : String) (isDestructor : Bool)
    (first second : Transcript) : Prop where
  first_eq : first.map Prod.fst =
    (signatureConflict? function params location isDestructor).toList
  second_eq : (∀ entry ∈ first, Settles entry.2) →
    second.map Prod.fst = (returnConflict? function returnType location).toList
  cut : ¬ (∀ entry ∈ first, Settles entry.2) → second = []

namespace Parts

variable (h : Parts function params returnType location isDestructor first second)

include h

/-- The questions of the first part are about the parameters. -/
lemma mem_first : ∀ entry ∈ first,
    entry.1 ∈ signatureConflict? function params location isDestructor :=
  mem_of_map_fst h.first_eq

/-- The questions of the second part are about the return type. -/
lemma mem_second : ∀ entry ∈ second, entry.1 ∈ returnConflict? function returnType location := by
  intro entry hmem
  by_cases hsettled : ∀ entry ∈ first, Settles entry.2
  · exact mem_of_map_fst (h.second_eq hsettled) entry hmem
  · rw [h.cut hsettled] at hmem
    cases hmem

lemma kind_first : ∀ entry ∈ first, entry.1.kind = .signature := fun entry hmem =>
  (signatureConflict?_eq_some (h.mem_first entry hmem)).2.1

lemma kind_second : ∀ entry ∈ second, entry.1.kind = .returnType := fun entry hmem =>
  kind_of_returnConflict? (h.mem_second entry hmem)

/-- What is asked about the parameters is asked in the first part. -/
lemma mem_first_of_kind : ∀ entry ∈ first ++ second, entry.1.kind = .signature → entry ∈ first := by
  intro entry hmem hkind
  rcases List.mem_append.1 hmem with hmem | hmem
  · exact hmem
  · rw [h.kind_second entry hmem] at hkind
    cases hkind

/-- What is asked about the return type is asked in the second part. -/
lemma mem_second_of_kind :
    ∀ entry ∈ first ++ second, entry.1.kind = .returnType → entry ∈ second := by
  intro entry hmem hkind
  rcases List.mem_append.1 hmem with hmem | hmem
  · rw [h.kind_first entry hmem] at hkind
    cases hkind
  · exact hmem

/-- The parameters are asked about first, and each part once. -/
lemma order : ((first ++ second).map fun entry => entry.1.kind).Sublist
    [.signature, .returnType] := by
  have hfirst : (first.map fun entry => entry.1.kind).Sublist [.signature] :=
    sublist_kinds h.first_eq fun _ hconflict => (signatureConflict?_eq_some hconflict).2.1
  have hsecond : (second.map fun entry => entry.1.kind).Sublist [.returnType] := by
    by_cases hsettled : ∀ entry ∈ first, Settles entry.2
    · exact sublist_kinds (h.second_eq hsettled) fun _ => kind_of_returnConflict?
    · rw [h.cut hsettled]
      exact List.nil_sublist _
  rw [List.map_append]
  exact hfirst.append hsecond

/-- There is a question about the parameters if and only if they disagree. -/
lemma signature_iff : (∃ entry ∈ first ++ second, entry.1.kind = .signature) ↔
    SignatureDiffers function params isDestructor := by
  constructor
  · rintro ⟨entry, hmem, hkind⟩
    have hconflict := h.mem_first entry (h.mem_first_of_kind entry hmem hkind)
    exact (mem_signatureConflict?_iff.1 hconflict).1
  · intro hdiffers
    obtain ⟨entry, hmem, hentry⟩ :=
      exists_of_map_fst h.first_eq (mem_signatureConflict?_iff.2 ⟨hdiffers, rfl⟩)
    exact ⟨entry, List.mem_append_left _ hmem, by rw [hentry]⟩

/-- There is a question about the return type if and only if it disagrees and the first part was
not the end. -/
lemma returnType_iff : (∃ entry ∈ first ++ second, entry.1.kind = .returnType) ↔
    ReturnTypeDiffers function returnType ∧
      ∀ entry ∈ first ++ second, entry.1.kind = .signature → Settles entry.2 := by
  constructor
  · rintro ⟨entry, hmem, hkind⟩
    have hmem := h.mem_second_of_kind entry hmem hkind
    obtain ⟨type, value, htype, hvalue, hsource, hne, -⟩ :=
      mem_returnConflict?_iff.1 (h.mem_second entry hmem)
    refine ⟨⟨type, value, htype, hvalue, hsource, hne⟩, fun other hother hkind => ?_⟩
    -- an answer in the first part that is the end would leave no second part
    by_contra hunsettled
    have hother := h.mem_first_of_kind other hother hkind
    rw [h.cut fun hsettled => hunsettled (hsettled other hother)] at hmem
    cases hmem
  · rintro ⟨⟨type, value, htype, hvalue, hsource, hne⟩, hsettled⟩
    have hsettled : ∀ entry ∈ first, Settles entry.2 := fun entry hmem =>
      hsettled entry (List.mem_append_left _ hmem) (h.kind_first entry hmem)
    obtain ⟨entry, hmem, hentry⟩ := exists_of_map_fst (h.second_eq hsettled)
      (mem_returnConflict?_iff.2 ⟨type, value, htype, hvalue, hsource, hne, rfl⟩)
    exact ⟨entry, List.mem_append_right _ hmem, by rw [hentry]⟩

/-- The two parts together are what there is a reason to ask. -/
lemma asks : Asks function params returnType location isDestructor (first ++ second) where
  order := h.order
  shows_params := by
    intro entry hmem hkind
    have hconflict := h.mem_first entry (h.mem_first_of_kind entry hmem hkind)
    exact (mem_signatureConflict?_iff.1 hconflict).2
  shows_types := by
    intro entry hmem hkind
    have hconflict := h.mem_second entry (h.mem_second_of_kind entry hmem hkind)
    obtain ⟨type, value, htype, hvalue, -, -, heq⟩ := mem_returnConflict?_iff.1 hconflict
    exact ⟨type, value, htype, hvalue, heq⟩
  signature_iff := h.signature_iff
  returnType_iff := h.returnType_iff

/-- The parameters are kept if the first part says so. -/
lemma keptIn_signature : keptIn (first ++ second) .signature =
    first.any fun entry => decide (entry.2 = some .keepExisting) := by
  have hsecond : keptIn second .signature = false :=
    keptIn_eq_false fun entry hmem => by simp [h.kind_second entry hmem]
  rw [keptIn_append, keptIn_of_kinds h.kind_first, hsecond, Bool.or_false]

/-- The return type is kept if the second part says so. -/
lemma keptIn_returnType : keptIn (first ++ second) .returnType =
    second.any fun entry => decide (entry.2 = some .keepExisting) := by
  have hfirst : keptIn first .returnType = false :=
    keptIn_eq_false fun entry hmem => by simp [h.kind_first entry hmem]
  rw [keptIn_append, keptIn_of_kinds h.kind_second, hfirst, Bool.false_or]

end Parts

/-- Reconciling asks in two parts.  Without an end it gives what comes in, but for what is kept. -/
lemma parts_of_ends {result : Except Stop Reconciliation}
    (h : (reconcile function params returnType location isDestructor).Ends log result) :
    ∃ first second, log = first ++ second ∧
      Parts function params returnType location isDestructor first second ∧
      ∀ agreed, result = .ok agreed → (∀ entry ∈ first ++ second, Settles entry.2) ∧
        agreed =
          { params := if keptIn (first ++ second) .signature then function.params else params
            returnType := if keptIn (first ++ second) .returnType then none else returnType
            conflicts := (first ++ second).map Prod.fst } := by
  simp only [reconcile, Dialogue.ends_bind_iff] at h
  obtain ⟨first, kept, rest, hfirst, hrest, rfl⟩ := h
  have hasked := map_fst_of_ends_keeps hfirst
  cases kept with
  | error stop =>
    obtain ⟨rfl, rfl⟩ := Dialogue.ends_done_iff.1 hrest
    have hunsettled := not_settles_of_ends_keeps hfirst
    exact ⟨first, [], rfl, ⟨hasked, fun hsettled => absurd hsettled hunsettled, fun _ => rfl⟩,
      fun _ heq => by cases heq⟩
  | ok keepsParams =>
    obtain ⟨second, kept, last, hsecond, hlast, rfl⟩ := Dialogue.ends_bind_iff.1 hrest
    obtain ⟨hsettled, hkept⟩ := settles_of_ends_keeps hfirst
    have hasked' := map_fst_of_ends_keeps hsecond
    have hparts : Parts function params returnType location isDestructor first second :=
      ⟨hasked, fun _ => hasked', fun hunsettled => absurd hsettled hunsettled⟩
    cases kept with
    | error stop =>
      obtain ⟨rfl, rfl⟩ := Dialogue.ends_done_iff.1 hlast
      exact ⟨first, second, by simp, hparts, fun _ heq => by cases heq⟩
    | ok keepsReturn =>
      obtain ⟨rfl, rfl⟩ := Dialogue.ends_done_iff.1 hlast
      obtain ⟨hsettled', hkept'⟩ := settles_of_ends_keeps hsecond
      refine ⟨first, second, by simp, hparts, fun agreed heq => ?_⟩
      cases heq
      refine ⟨List.forall_mem_append.2 ⟨hsettled, hsettled'⟩, ?_⟩
      rw [hparts.keptIn_signature, hparts.keptIn_returnType, List.map_append, hasked, hasked',
        hkept, hkept']

/-- Under every transcript, reconciling asks what there is a reason to ask, and it comes to what
the answers make of it. -/
lemma asks_and_gives {outcome : Outcome Reconciliation}
    (h : (Sync.consult (reconcile function params returnType location isDestructor) before).Ends
      log outcome) :
    Asks function params returnType location isDestructor log ∧
      Gives function params returnType location before log outcome := by
  obtain ⟨log, result, last, hends, hlast, rfl⟩ := Dialogue.ends_bind_iff.1 h
  obtain ⟨first, second, rfl, hparts, hagreed⟩ := parts_of_ends hends
  cases result with
  | error cause =>
    obtain ⟨rfl, rfl⟩ := Dialogue.ends_done_iff.1 hlast
    rw [List.append_nil]
    refine ⟨hparts.asks, ?_⟩
    obtain ⟨-, front, conflict, answer, hlog, ⟨rfl, rfl⟩ | ⟨rfl, rfl⟩⟩ := last_of_ends hends
    · exact .aborted hlog
    · exact .unanswered hlog
  | ok agreed =>
    obtain ⟨rfl, rfl⟩ := Dialogue.ends_done_iff.1 hlast
    obtain ⟨hsettled, rfl⟩ := hagreed agreed rfl
    rw [List.append_nil]
    exact ⟨hparts.asks, .agreed hsettled⟩

/-- Whoever decides, reconciling comes to an end.  It asks what the two signatures give a reason to
ask and nothing else; it gives whole lists and whole types according to the answers, or the end of
the run; and it leaves the database alone. -/
theorem course_of_reconcile {σ : Type} (answer : Conflict → StateM σ (Option Decision)) (state : σ)
    (function : FunctionRecord) (params : List Parameter) (returnType : Option DataType)
    (location : String) (isDestructor : Bool) (before : Progress) :
    ∃ log outcome after,
      ((Sync.consult (reconcile function params returnType location isDestructor)
        before).runM answer).run state = (outcome, after) ∧
      AnsweredBy answer state log after ∧
      Asks function params returnType location isDestructor log ∧
      Gives function params returnType location before log outcome := by
  obtain ⟨log, hends, hanswered⟩ := Dialogue.exists_ends_of_runM answer
    (Sync.consult (reconcile function params returnType location isDestructor) before) state
  obtain ⟨hasks, hgives⟩ := asks_and_gives hends
  exact ⟨log, _, _, rfl, hanswered, hasks, hgives⟩

end Reconciliation

end BindingSync
