import BindingSync.Proofs.Sync.CutShort
import BindingSync.Proofs.Sync.Settled

/-!
# Runs made of their pieces

`Sync.nonempty_step_of_returns` takes a step apart.  This file goes the other way: from a located
function, a resolved signature, an agreement and a placing it makes a step that comes to its end
(`Sync.returns_addressed`).  This is what a statement about a second run needs, whose steps are
not given but have to be found.

Where all conflicts are answered alike, the transcript that belongs to the answers is the only one
(`Dialogue.runFixed_eq_iff`), so that a statement about the transcript of such a run is one about
its outcome.
-/

namespace BindingSync

open BindingSync.Binding
open BindingSync.Text
open BindingSync.Dialogue (Transcript)

namespace Dialogue

variable {α β : Type}

/-- The run in which every conflict is answered alike ends as the transcripts of such answers
say. -/
lemma runFixed_eq_iff {decision : Decision} {d : Dialogue α} {value : α} :
    d.runFixed decision = value ↔
      ∃ log, d.Ends log value ∧ ∀ asked ∈ log, asked.2 = some decision := by
  constructor
  · rintro rfl
    exact exists_ends_runFixed decision d
  · rintro ⟨log, hends, hall⟩
    induction hends with
    | done value => rfl
    | ask _ ih =>
      obtain ⟨hfirst, hrest⟩ := List.forall_mem_cons.1 hall
      obtain rfl : _ = some decision := hfirst
      exact ih hrest

/-- The transcript of the run in which every conflict is answered alike. -/
def transcriptFixed (decision : Decision) : Dialogue α → Transcript
  | done _ => []
  | ask conflict next =>
    (conflict, some decision) :: transcriptFixed decision (next (some decision))

/-- The run in which every conflict is answered alike ends under its transcript. -/
lemma ends_transcriptFixed (decision : Decision) (d : Dialogue α) :
    d.Ends (d.transcriptFixed decision) (d.runFixed decision) := by
  induction d with
  | done value => exact .done value
  | ask conflict next ih => exact .ask (ih (some decision))

/-- Two dialogues in a row are answered alike one after the other. -/
lemma runFixed_bind (decision : Decision) (d : Dialogue α) (f : α → Dialogue β) :
    (d.bind f).runFixed decision = (f (d.runFixed decision)).runFixed decision := by
  induction d with
  | done value => rfl
  | ask conflict next ih => exact ih (some decision)

/-- The dialogue is done before anything is asked. -/
def isSilent : Dialogue α → Bool
  | done _ => true
  | ask _ _ => false

/-- A silent dialogue ends under the empty transcript, and it does not matter who would answer. -/
lemma ends_runFixed_of_isSilent {d : Dialogue α} (h : d.isSilent = true)
    (decision : Decision) : d.Ends [] (d.runFixed decision) := by
  cases d with
  | done value => exact .done value
  | ask conflict next => cases h

end Dialogue

namespace Sync

variable {before after : Progress} {log : Transcript} {platform : Platform} {cls : ClassDecl}
  {decl : FunctionDecl} {offset : Int}

/-- Where a function was located, locating finds or creates it. -/
lemma locate_of_located {address : Int} {function : FunctionRecord} {isNew : Bool}
    (h : Located cls decl address before function isNew after) :
    locate cls decl address before = .done (.done (function, isNew) after) := by
  rw [locate_apply]
  cases h with
  | found hfound => rw [hfound]
  | created hnone hopen => rw [hnone, hopen]; rfl

/-- The signature of a known declaration is only read. -/
lemma incoming_of_known {returnType : Option DataType} {params : List Parameter}
    (hknown : Declared.Known before.db cls decl)
    (hreturn : Declared.returnType? before.db decl = some returnType)
    (hparams : Declared.params? before.db cls decl = some params) :
    incoming cls decl before = .done (.done (returnType, params) before) := by
  obtain ⟨returnType', this, written, hreturn', hthis, hwritten, rfl⟩ :=
    Declared.params?_eq_some_iff.1 hparams
  obtain rfl : returnType = returnType' := Option.some.inj (hreturn.symm.trans hreturn')
  have hdecls : ∀ param ∈ decl.params, Declared.KnownType before.db param.type := by
    intro param hmem
    apply hknown
    simp only [Declared.mentioned, List.mem_append]
    exact .inr (List.mem_map_of_mem hmem)
  rw [incoming, bind_of_done (returnTypeOf_of_known hknown hreturn),
    bind_of_done (thisParams_of_known hknown hthis),
    bind_of_done (declaredParams_of_known hdecls hwritten)]
  rfl

/-- The signature that a declaration was resolved to is the one that the database shows then. -/
lemma reads_of_returns_incoming {signature : Option DataType × List Parameter}
    (h : (incoming cls decl).Returns before log signature after) :
    Declared.returnType? after.db decl = some signature.1 ∧
      Declared.params? after.db cls decl = some signature.2 := by
  unfold incoming at h
  obtain ⟨_, returnType, typed₁, _, hreturn, hrest₁, rfl⟩ := returns_bind_iff.1 h
  obtain ⟨rfl, -, -, hread₁⟩ := resolving_of_returns_returnTypeOf hreturn
  obtain ⟨_, this, typed₂, _, hthis, hrest₂, rfl⟩ := returns_bind_iff.1 hrest₁
  obtain ⟨rfl, hresolving₂, -, hread₂⟩ := resolving_of_returns_thisParams hthis
  obtain ⟨_, written, typed₃, _, hwritten, hrest₃, rfl⟩ := returns_bind_iff.1 hrest₂
  obtain ⟨rfl, hresolving₃, -, hread₃⟩ := resolving_of_returns_declaredParams hwritten
  obtain ⟨rfl, rfl, rfl⟩ := returns_pure_iff.1 hrest₃
  have hreturns := Declared.returnType?_of_grows
    (hresolving₂.grows.trans hresolving₃.grows) hread₁
  exact ⟨hreturns, Declared.params?_eq_some_iff.2 ⟨returnType, this, written, hreturns,
    Declared.thisParams?_of_grows hresolving₃.grows hread₂, hread₃, rfl⟩⟩

/-- A function is located, its signature is resolved, the two signatures are reconciled and the
parameters are placed: then the step comes to its end, and writes what was agreed on. -/
theorem returns_addressed {base : Int} {function : FunctionRecord} {isNew : Bool}
    {start typed : Progress} {returnType : Option DataType} {params placed : List Parameter}
    {agreed : Reconciliation} {mode : StorageMode} {raised : List Warning}
    {result : FunctionRecord} (hbase : before.db.imageBase = some base)
    (hlocated : Located cls decl (base + offset) before function isNew start)
    (hincoming : incoming cls decl start = .done (.done (returnType, params) typed))
    (hagrees : (Reconciliation.reconcile function params returnType (cls.qualify decl)
      decl.isDestructor).Ends log (.ok agreed))
    (hplacing : Placing (conventionOf platform cls decl) (cls.qualify decl) agreed.params placed
      mode raised)
    (hresult : result = function.withSignature
      ((conventionOf platform cls decl).map fun convention => convention.databaseName)
      agreed.returnType placed mode .analysis) :
    (addressed platform cls decl offset).Returns before log ()
      (noted isNew function result (cls.qualify decl)
        { warned raised typed with db := typed.db.putFunction result }) := by
  have haddress : (addressOf offset).Returns before [] (base + offset) before :=
    returns_addressOf_iff.2 ⟨rfl, rfl, base, hbase, rfl⟩
  have hfound : (locate cls decl (base + offset)).Returns before [] (function, isNew) start :=
    (returns_of_done (locate_of_located hlocated)).2 ⟨rfl, rfl, rfl⟩
  have htyped : (incoming cls decl).Returns start [] (returnType, params) typed :=
    (returns_of_done hincoming).2 ⟨rfl, rfl, rfl⟩
  have hconsult : (consult (Reconciliation.reconcile function params returnType
      (cls.qualify decl) decl.isDestructor)).Returns typed log agreed typed :=
    returns_consult_iff.2 ⟨hagrees, rfl⟩
  have hplaced : (Sync.placed (conventionOf platform cls decl) agreed.params
      (cls.qualify decl)).Returns typed [] (placed, mode) (warned raised typed) :=
    (returns_of_done (placed_of_placing hplacing typed)).2 ⟨rfl, rfl, rfl⟩
  subst hresult
  rw [addressed_eq]
  refine returns_bind_iff.2 ⟨_, _, _, _, haddress, ?_, rfl⟩
  refine returns_bind_iff.2 ⟨_, _, _, _, hfound, ?_, rfl⟩
  refine returns_bind_iff.2 ⟨_, _, _, _, htyped, ?_, rfl⟩
  refine returns_bind_iff.2 ⟨_, _, _, _, hconsult, ?_, (List.append_nil log).symm⟩
  refine returns_bind_iff.2 ⟨_, _, _, _, hplaced, ?_, rfl⟩
  exact (returns_of_done (write_apply _ _ _ _ _)).2 ⟨rfl, rfl, rfl⟩

/-- A step that comes to its end is made of such pieces. -/
theorem pieces_of_returns_addressed
    (h : (addressed platform cls decl offset).Returns before log () after) :
    ∃ base function isNew start returnType params typed agreed placed mode raised result,
      before.db.imageBase = some base ∧
      Located cls decl (base + offset) before function isNew start ∧
      (incoming cls decl).Returns start [] (returnType, params) typed ∧
      (Reconciliation.reconcile function params returnType (cls.qualify decl)
        decl.isDestructor).Ends log (.ok agreed) ∧
      Placing (conventionOf platform cls decl) (cls.qualify decl) agreed.params placed mode
        raised ∧
      result = function.withSignature
        ((conventionOf platform cls decl).map fun convention => convention.databaseName)
        agreed.returnType placed mode .analysis ∧
      after = noted isNew function result (cls.qualify decl)
        { warned raised typed with db := typed.db.putFunction result } := by
  rw [addressed_eq] at h
  obtain ⟨_, address, _, _, haddress, h₁, rfl⟩ := returns_bind_iff.1 h
  obtain ⟨rfl, rfl, base, hbase, rfl⟩ := returns_addressOf_iff.1 haddress
  obtain ⟨_, ⟨function, isNew⟩, start, _, hlocate, h₂, rfl⟩ := returns_bind_iff.1 h₁
  obtain ⟨rfl, hlocated⟩ := located_of_returns hlocate
  obtain ⟨_, ⟨returnType, params⟩, typed, _, htyped, h₃, rfl⟩ := returns_bind_iff.1 h₂
  obtain ⟨rfl, -⟩ := (resolves_incoming cls decl).returns htyped
  obtain ⟨_, agreed, consulted, _, hconsult, h₄, rfl⟩ := returns_bind_iff.1 h₃
  obtain ⟨hagrees, rfl⟩ := returns_consult_iff.1 hconsult
  obtain ⟨_, ⟨placed, mode⟩, _, _, hplaced, h₅, rfl⟩ := returns_bind_iff.1 h₄
  obtain ⟨raised, rfl, hplacing, rfl⟩ := placing_of_returns hplaced
  obtain ⟨rfl, -, rfl⟩ := (returns_of_done (write_apply _ _ _ _ _)).1 h₅
  exact ⟨base, function, isNew, start, returnType, params, consulted, agreed, placed, mode, raised,
    _, hbase, hlocated, htyped, by simpa using hagrees, hplacing, rfl, rfl⟩

end Sync

end BindingSync
