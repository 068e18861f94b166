import BindingSync.Proofs.Sync.Replay
import BindingSync.Proofs.Sync.Summary

/-!
# The order of the entries

Where all types that some entries mention are there, nothing has to be guessed, and the steps of
entries with distinct offsets do not notice each other.  What a step depends on is little: the sizes
and the image base, the types, and the function at its address (`Sync.Entry.SeesSame`).  None of
this is changed by the steps of other entries, which only add categories and namespaces besides
what they write at their own addresses.

So each entry may as well be handled alone.  A run over the entries comes to its end exactly if the
run over each single one of them does, and what it leaves at an address is what the single run
leaves there (`Sync.exists_alone_of_each`, `Sync.exists_each_of_alone`).  Neither speaks of the
order of the entries, and so it does not matter (`Sync.perm_of_runFixed`).
-/

namespace BindingSync

open BindingSync.Binding
open BindingSync.Text
open BindingSync.Dialogue (Transcript)

/-! ### What a step reads -/

namespace Declared

variable {db db' : Database}

/-- What a type expression reads as depends on the types and on the size of pointers. -/
lemma type?_congr (htypes : db'.userTypes = db.userTypes)
    (hsize : db'.pointerSize = db.pointerSize) : type? db' = type? db := by
  funext expr
  simp only [type?, Database.typeAt?, Database.userTypeAt?, htypes, hsize]

/-- The return type reads as its expression does. -/
lemma returnType?_congr (h : type? db' = type? db) : returnType? db' = returnType? db := by
  funext decl
  rw [returnType?, returnType?, h]

/-- The implicit `this` reads as the pointer to its class does. -/
lemma thisParams?_congr (h : type? db' = type? db) : thisParams? db' = thisParams? db := by
  funext cls decl
  rw [thisParams?, thisParams?, h]

/-- The written parameters read as their types do. -/
lemma writtenParams?_congr (h : type? db' = type? db) :
    writtenParams? db' = writtenParams? db := by
  funext params
  rw [writtenParams?, writtenParams?, h]

/-- The whole list reads as the types in it do. -/
lemma params?_congr (h : type? db' = type? db) : params? db' = params? db := by
  funext cls decl
  rw [params?, params?, returnType?_congr h, thisParams?_congr h, writtenParams?_congr h]

end Declared

namespace Sync

variable {before after : Progress} {log : Transcript} {platform : Platform} {cls : ClassDecl}
  {decl : FunctionDecl} {offset : Int}

/-- Nothing is different but the categories. -/
def Filed (before after : Progress) : Prop :=
  after = { before with db := { before.db with categories := after.db.categories } }

namespace Filed

/-- Where nothing happened, nothing is different. -/
lemma refl (progress : Progress) : Filed progress progress := rfl

/-- Categories may be added twice. -/
lemma trans {a b c : Progress} (hab : Filed a b) (hbc : Filed b c) : Filed a c := by
  rw [Filed, hbc, hab]

/-- The types are what they were. -/
lemma userTypes (h : Filed before after) : after.db.userTypes = before.db.userTypes := by
  rw [h]

/-- Expressions read as they did. -/
lemma type? (h : Filed before after) : Declared.type? after.db = Declared.type? before.db :=
  Declared.type?_congr h.userTypes (by rw [h])

end Filed

/-- Resolving an expression with a name whose type is there adds categories only. -/
lemma filed_resolve {expr : TypeExpr} {type : DataType} (hname : expr.name.base ≠ "")
    (hread : Declared.type? before.db expr = some type) :
    ∃ after, Filed before after ∧ resolve expr before = .done (.done type after) := by
  obtain ⟨found, hfound, rfl⟩ := Option.map_eq_some_iff.1 hread
  have hresolve : Resolution.resolve before.db expr =
      .ok ⟨found.indirect before.db.pointerSize (Resolution.depth expr),
        before.db.createCategory (Resolution.pathOf expr).category, []⟩ := by
    have hthere : (before.db.createCategory (Resolution.pathOf expr).category).typeAt?
        (Resolution.pathOf expr) = some found := hfound
    simp only [Resolution.resolve, if_neg hname, hthere]
    rfl
  rw [resolve_apply, hresolve]
  exact ⟨_, by simp [Filed, Database.createCategory], rfl⟩

/-- Resolving the return type adds categories only. -/
lemma filed_returnTypeOf {type : Option DataType}
    (hnames : ∀ expr ∈ decl.returnType.toList, expr.name.base ≠ "")
    (hread : Declared.returnType? before.db decl = some type) :
    ∃ after, Filed before after ∧ returnTypeOf decl before = .done (.done type after) := by
  unfold returnTypeOf
  rw [Declared.returnType?] at hread
  cases hdecl : decl.returnType with
  | none =>
    rw [hdecl] at hread
    cases hread
    exact ⟨before, .refl before, rfl⟩
  | some expr =>
    rw [hdecl] at hread
    obtain ⟨found, hfound, rfl⟩ := Option.map_eq_some_iff.1 hread
    obtain ⟨after, hfiled, hresolve⟩ := filed_resolve (hnames expr (by simp [hdecl])) hfound
    refine ⟨after, hfiled, ?_⟩
    simp only [bind_of_done hresolve]
    rfl

/-- Resolving the implicit `this` adds categories only. -/
lemma filed_thisParams {params : List Parameter}
    (hname : decl.hasThis = true → cls.name.base ≠ "")
    (hread : Declared.thisParams? before.db cls decl = some params) :
    ∃ after, Filed before after ∧ thisParams cls decl before = .done (.done params after) := by
  unfold thisParams
  unfold Declared.thisParams? at hread
  by_cases hthis : decl.hasThis = true
  · rw [if_pos hthis] at hread ⊢
    obtain ⟨found, hfound, rfl⟩ := Option.map_eq_some_iff.1 hread
    have hnamed : (TypeExpr.pointerTo cls.name).name.base ≠ "" := hname hthis
    obtain ⟨after, hfiled, hresolve⟩ := filed_resolve hnamed hfound
    refine ⟨after, hfiled, ?_⟩
    rw [resolveThis, bind_of_done hresolve]
    rfl
  · rw [if_neg hthis] at hread ⊢
    cases hread
    exact ⟨before, .refl before, rfl⟩

/-- Resolving the written parameters adds categories only. -/
lemma filed_declaredParams {decls : List ParamDecl} {params : List Parameter}
    (hnames : ∀ decl ∈ decls, decl.type.name.base ≠ "")
    (hread : Declared.writtenParams? before.db decls = some params) :
    ∃ after, Filed before after ∧
      declaredParams decls before = .done (.done params after) := by
  induction decls generalizing before params with
  | nil =>
    cases hread
    exact ⟨before, .refl before, rfl⟩
  | cons decl rest ih =>
    obtain ⟨type, others, htype, hothers, rfl⟩ := Declared.writtenParams?_cons.1 hread
    obtain ⟨hname, hnames'⟩ := List.forall_mem_cons.1 hnames
    obtain ⟨between, hfirst, hresolve⟩ := filed_resolve hname htype
    have hothers' : Declared.writtenParams? between.db rest = some others := by
      rw [Declared.writtenParams?_congr hfirst.type?]
      exact hothers
    obtain ⟨after, hrest, hlater⟩ := ih hnames' hothers'
    refine ⟨after, hfirst.trans hrest, ?_⟩
    rw [declaredParams, bind_of_done hresolve, bind_of_done hlater]
    rfl

/-- Resolving a signature whose types are all there adds categories only. -/
lemma filed_incoming {returnType : Option DataType} {params : List Parameter}
    (hnames : ∀ expr ∈ Declared.mentioned cls decl, expr.name.base ≠ "")
    (hreturn : Declared.returnType? before.db decl = some returnType)
    (hparams : Declared.params? before.db cls decl = some params) :
    ∃ after, Filed before after ∧
      incoming cls decl before = .done (.done (returnType, params) after) := by
  obtain ⟨returnType', this, written, hreturn', hthis, hwritten, rfl⟩ :=
    Declared.params?_eq_some_iff.1 hparams
  obtain rfl : returnType = returnType' := Option.some.inj (hreturn.symm.trans hreturn')
  simp only [Declared.mentioned, List.mem_append, List.mem_map] at hnames
  obtain ⟨first, hfirst, hfirst'⟩ :=
    filed_returnTypeOf (fun expr hmem => hnames expr (.inl (.inl hmem))) hreturn
  have hthis' : Declared.thisParams? first.db cls decl = some this := by
    rw [Declared.thisParams?_congr hfirst.type?]
    exact hthis
  obtain ⟨second, hsecond, hsecond'⟩ := filed_thisParams
    (fun hyes => hnames (.pointerTo cls.name) (.inl (.inr (by simp [hyes])))) hthis'
  have hwritten' : Declared.writtenParams? second.db decl.params = some written := by
    rw [Declared.writtenParams?_congr (hfirst.trans hsecond).type?]
    exact hwritten
  obtain ⟨third, hthird, hthird'⟩ := filed_declaredParams
    (fun param hmem => hnames param.type (.inr ⟨param, hmem, rfl⟩)) hwritten'
  refine ⟨third, (hfirst.trans hsecond).trans hthird, ?_⟩
  rw [incoming, bind_of_done hfirst', bind_of_done hsecond', bind_of_done hthird']
  rfl

/-! ### What a step sees -/

/-- Every type that the entry mentions is there. -/
def Entry.IsTyped (db : Database) (e : Entry) : Prop :=
  ∀ expr ∈ Declared.mentioned e.cls e.decl, (db.typeAt? (Resolution.pathOf expr)).isSome

/-- All that the step of an entry depends on is the same in two databases. -/
structure Entry.SeesSame (e : Entry) (db db' : Database) : Prop where
  imageBase : db'.imageBase = db.imageBase
  pointerSize : db'.pointerSize = db.pointerSize
  isLocked : db'.isLocked = db.isLocked
  userTypes : db'.userTypes = db.userTypes
  function : e.function? db' = e.function? db

namespace Entry

variable {e : Entry}

/-- An entry sees in one database what it sees in the other. -/
lemma SeesSame.symm {db db' : Database} (h : e.SeesSame db db') : e.SeesSame db' db :=
  ⟨h.imageBase.symm, h.pointerSize.symm, h.isLocked.symm, h.userTypes.symm, h.function.symm⟩

/-- Where the types are the same, they are there in both databases or in none. -/
lemma IsTyped.congr {db db' : Database} (h : e.IsTyped db) (htypes : db'.userTypes = db.userTypes) :
    e.IsTyped db' := by
  intro expr hmem
  have hthere := h expr hmem
  simp only [Database.typeAt?, Database.userTypeAt?, htypes] at hthere ⊢
  exact hthere

end Entry

/-- Where all types are there, resolving creates none. -/
lemma Introduces.userTypes_eq {exprs : List TypeExpr} {placeholders : List NamedType}
    (h : Introduces exprs before after placeholders)
    (htyped : ∀ expr ∈ exprs, (before.db.typeAt? (Resolution.pathOf expr)).isSome) :
    after.db.userTypes = before.db.userTypes := by
  have hnil : placeholders = [] := by
    by_contra hne
    obtain ⟨type, hmem⟩ := List.exists_mem_of_ne_nil _ hne
    obtain ⟨hfree, expr, hexpr, rfl⟩ := h.created type hmem
    rw [Declared.path_placeholder] at hfree
    have hthere := htyped expr hexpr
    rw [hfree] at hthere
    cases hthere
  rw [h.userTypes, hnil, List.append_nil]

/-- Creating namespaces leaves the types alone. -/
lemma userTypes_namespacesBelow (path : List WideString) (db : Database)
    (parent : List WideString) : (namespacesBelow db parent path).userTypes = db.userTypes := by
  induction path generalizing db parent with
  | nil => rfl
  | cons segment rest ih =>
    rw [namespacesBelow]
    split
    · exact ih _ _
    · exact ih _ _

/-- Locating a function leaves the types alone. -/
lemma Located.userTypes {address : Int} {function : FunctionRecord} {isNew : Bool}
    (h : Located cls decl address before function isNew after) :
    after.db.userTypes = before.db.userTypes := by
  cases h with
  | found _ => rfl
  | created _ _ => exact userTypes_namespacesBelow _ _ _

/-- Locating finds or creates the same function where the same one was there before. -/
lemma Located.of_same {address : Int} {function : FunctionRecord} {isNew : Bool}
    {before' : Progress} (h : Located cls decl address before function isNew after)
    (hfunction : before'.db.functionAt? address = before.db.functionAt? address)
    (hlocked : before'.db.isLocked = before.db.isLocked) :
    ∃ after', Located cls decl address before' function isNew after' := by
  cases h with
  | found hfound => exact ⟨before', .found (hfunction.trans hfound)⟩
  | created hnone hopen => exact ⟨_, .created (hfunction.trans hnone) (hlocked.trans hopen)⟩

/-- A step that wrote a function at the address of its entry left it there. -/
lemma function?_written {e : Entry} {base : Int} {typed : Progress} {isNew : Bool}
    {old new : FunctionRecord} {raised : List Warning}
    (hbase : before.db.imageBase = some base) (hgrows : before.db.Grows typed.db)
    (hnew : new.address = base + e.offset) :
    e.function? (noted isNew old new e.location
      { warned raised typed with db := typed.db.putFunction new }).db = some new := by
  have haddress : e.address? (typed.db.putFunction new) = some new.address := by
    rw [Entry.address?, hnew]
    change typed.db.imageBase.map _ = _
    rw [hgrows.imageBase, hbase]
    rfl
  rw [db_noted, Entry.function?, haddress, Option.bind_some, Database.functionAt?_putFunction,
    if_pos rfl]

/-- A step comes to its end wherever its entry sees the same, and it writes the same function. -/
theorem returns_of_seesSame {e : Entry} {before' : Progress} (htyped : e.IsTyped before.db)
    (hsees : e.SeesSame before.db before'.db)
    (h : (entry platform e).Returns before log () after) :
    ∃ after', (entry platform e).Returns before' log () after' ∧
      e.function? after'.db = e.function? after.db := by
  obtain ⟨base, function, isNew, start, returnType, params, typed, agreed, placed, mode, raised,
    result, hbase, hlocated, hincoming, hagrees, hplacing, hresult, rfl⟩ :=
    pieces_of_returns_addressed h
  obtain ⟨step⟩ := nonempty_step_of_returns h
  have hbase' : before'.db.imageBase = some base := hsees.imageBase.trans hbase
  have hfunction : before'.db.functionAt? (base + e.offset) =
      before.db.functionAt? (base + e.offset) := by
    have hsame := hsees.function
    simpa only [Entry.function?, Entry.address?, hbase, hbase', Option.map_some,
      Option.bind_some] using hsame
  obtain ⟨start', hlocated'⟩ := hlocated.of_same hfunction hsees.isLocked
  obtain ⟨-, placeholders, introduces⟩ := (resolves_incoming e.cls e.decl).returns hincoming
  -- The signature reads in the one database as it was resolved in the other.
  have htypes : start'.db.userTypes = typed.db.userTypes := by
    have hstart : e.IsTyped start.db := htyped.congr hlocated.userTypes
    rw [introduces.userTypes_eq hstart, hlocated.userTypes, hlocated'.userTypes, hsees.userTypes]
  have hread : Declared.type? start'.db = Declared.type? typed.db := by
    apply Declared.type?_congr htypes
    rw [hlocated'.grows.pointerSize, hsees.pointerSize, introduces.grows.pointerSize,
      hlocated.grows.pointerSize]
  obtain ⟨hreturn, hparams⟩ := reads_of_returns_incoming hincoming
  have hreturn' : Declared.returnType? start'.db e.decl = some returnType := by
    rw [Declared.returnType?_congr hread]
    exact hreturn
  have hparams' : Declared.params? start'.db e.cls e.decl = some params := by
    rw [Declared.params?_congr hread]
    exact hparams
  obtain ⟨typed', hfiled, hincoming'⟩ :=
    filed_incoming (fun expr hmem => (step.known expr hmem).1) hreturn' hparams'
  have hreturns := returns_addressed hbase' hlocated' hincoming' hagrees hplacing hresult
  have haddress : result.address = base + e.offset := by
    rw [hresult]
    exact hlocated.address_eq
  have hgrows : before.db.Grows typed.db := hlocated.grows.trans introduces.grows
  have hgrows' : before'.db.Grows typed'.db := by
    obtain ⟨-, _, introduces'⟩ := (resolves_incoming e.cls e.decl).returns
      ((returns_of_done hincoming').2 ⟨rfl, rfl, rfl⟩)
    exact hlocated'.grows.trans introduces'.grows
  refine ⟨_, hreturns, ?_⟩
  exact (function?_written hbase' hgrows' haddress).trans
    (function?_written hbase hgrows haddress).symm

/-- The step of an entry whose types are all there leaves the types alone. -/
lemma userTypes_of_returns {e : Entry} (htyped : e.IsTyped before.db)
    (h : (entry platform e).Returns before log () after) :
    after.db.userTypes = before.db.userTypes := by
  obtain ⟨base, function, isNew, start, returnType, params, typed, agreed, placed, mode, raised,
    result, hbase, hlocated, hincoming, hagrees, hplacing, hresult, rfl⟩ :=
    pieces_of_returns_addressed h
  obtain ⟨-, placeholders, introduces⟩ := (resolves_incoming e.cls e.decl).returns hincoming
  have hstart : e.IsTyped start.db := htyped.congr hlocated.userTypes
  rw [db_noted]
  exact (introduces.userTypes_eq hstart).trans hlocated.userTypes

/-- What an entry sees is not changed by the step of an entry with another offset. -/
lemma seesSame_of_returns {e other : Entry} (htyped : other.IsTyped before.db)
    (h : (entry platform other).Returns before log () after) (hother : e.offset ≠ other.offset) :
    e.SeesSame before.db after.db := by
  obtain ⟨step⟩ := nonempty_step_of_returns h
  refine ⟨step.grows.imageBase, step.grows.pointerSize, step.grows.isLocked,
    userTypes_of_returns htyped h, ?_⟩
  exact function?_of_frame (step.frame_of_mem (List.mem_singleton_self other)) (by simpa using hother)

/-! ### Runs and single steps -/

variable {list : List Entry}

/-- If a run over typed entries comes to its end, then so does the step of each of them alone, and
it leaves the function there that the run leaves. -/
theorem exists_alone_of_each (hdistinct : (list.map Entry.offset).Nodup)
    (htyped : ∀ e ∈ list, e.IsTyped before.db)
    (h : (each (entry platform) list).Returns before log () after) :
    after.db.userTypes = before.db.userTypes ∧
      ∀ e ∈ list, ∃ part alone, part ⊆ log ∧ (entry platform e).Returns before part () alone ∧
        e.function? after.db = e.function? alone.db := by
  induction list generalizing before log with
  | nil =>
    obtain ⟨-, -, rfl⟩ := returns_pure_iff.1 h
    exact ⟨rfl, by simp⟩
  | cons first rest ih =>
    obtain ⟨hfresh, hdistinct'⟩ := List.nodup_cons.1 hdistinct
    obtain ⟨hfirst, hrest⟩ := List.forall_mem_cons.1 htyped
    obtain ⟨log₁, _, between, log₂, hstep, hlater, rfl⟩ := returns_bind_iff.1 h
    have htypes := userTypes_of_returns hfirst hstep
    obtain ⟨htypes', hothers⟩ :=
      ih hdistinct' (fun e hmem => (hrest e hmem).congr htypes) hlater
    refine ⟨htypes'.trans htypes, List.forall_mem_cons.2 ⟨?_, ?_⟩⟩
    · have hsame : first.function? after.db = first.function? between.db :=
        function?_of_frame (frame_of_returns_each hlater) hfresh
      exact ⟨log₁, between, List.subset_append_left _ _, hstep, hsame⟩
    · intro e hmem
      have hoffset : e.offset ≠ first.offset := by
        intro heq
        exact hfresh (heq ▸ List.mem_map_of_mem hmem)
      have hsees := (seesSame_of_returns hfirst hstep hoffset).symm
      obtain ⟨part, alone, hpart, halone, hfunction⟩ := hothers e hmem
      obtain ⟨alone', halone', hfunction'⟩ :=
        returns_of_seesSame ((hrest e hmem).congr htypes) hsees halone
      exact ⟨part, alone', fun asked hasked => List.mem_append_right _ (hpart hasked), halone',
        hfunction.trans hfunction'.symm⟩

/-- If the step of each of some typed entries comes to its end alone, then so does the run over all
of them, with the same answers. -/
theorem exists_each_of_alone {decision : Decision} (hdistinct : (list.map Entry.offset).Nodup)
    (htyped : ∀ e ∈ list, e.IsTyped before.db)
    (h : ∀ e ∈ list, ∃ part alone, (∀ asked ∈ part, asked.2 = some decision) ∧
      (entry platform e).Returns before part () alone) :
    ∃ log after, (∀ asked ∈ log, asked.2 = some decision) ∧
      (each (entry platform) list).Returns before log () after := by
  induction list generalizing before with
  | nil => exact ⟨[], before, by simp, returns_pure_iff.2 ⟨rfl, rfl, rfl⟩⟩
  | cons first rest ih =>
    obtain ⟨hfresh, hdistinct'⟩ := List.nodup_cons.1 hdistinct
    obtain ⟨hfirst, hrest⟩ := List.forall_mem_cons.1 htyped
    obtain ⟨⟨part, between, hpart, hstep⟩, hothers⟩ := List.forall_mem_cons.1 h
    have htypes := userTypes_of_returns hfirst hstep
    have hlater : ∀ e ∈ rest, ∃ part alone, (∀ asked ∈ part, asked.2 = some decision) ∧
        (entry platform e).Returns between part () alone := by
      intro e hmem
      have hoffset : e.offset ≠ first.offset := by
        intro heq
        exact hfresh (heq ▸ List.mem_map_of_mem hmem)
      obtain ⟨other, alone, hother, halone⟩ := hothers e hmem
      obtain ⟨alone', halone', -⟩ := returns_of_seesSame (hrest e hmem)
        (seesSame_of_returns hfirst hstep hoffset) halone
      exact ⟨other, alone', hother, halone'⟩
    obtain ⟨log, after, hlog, hreturns⟩ :=
      ih hdistinct' (fun e hmem => (hrest e hmem).congr htypes) hlater
    refine ⟨part ++ log, after, ?_, returns_bind_iff.2 ⟨part, (), between, log, hstep, hreturns, rfl⟩⟩
    intro asked hasked
    rcases List.mem_append.1 hasked with hasked | hasked
    · exact hpart asked hasked
    · exact hlog asked hasked

/-- Two runs over the same typed entries, in any order and with the same answer to every conflict,
leave the same functions. -/
lemma functionAt?_of_perm {decision : Decision} {list' : List Entry} {log' : Transcript}
    {after' : Progress} (hperm : list.Perm list') (hdistinct : (list.map Entry.offset).Nodup)
    (htyped : ∀ e ∈ list, e.IsTyped before.db)
    (h : (each (entry platform) list).Returns before log () after)
    (hlog : ∀ asked ∈ log, asked.2 = some decision)
    (h' : (each (entry platform) list').Returns before log' () after')
    (hlog' : ∀ asked ∈ log', asked.2 = some decision) (address : Int) :
    after'.db.functionAt? address = after.db.functionAt? address := by
  have hdistinct' : (list'.map Entry.offset).Nodup := (hperm.map Entry.offset).nodup_iff.1 hdistinct
  have htyped' : ∀ e ∈ list', e.IsTyped before.db := fun e hmem => htyped e (hperm.mem_iff.2 hmem)
  by_cases hentry : IsAddressOf list before.db address
  · obtain ⟨e, hmem, haddress⟩ := hentry
    obtain ⟨part, alone, hpart, halone, hfunction⟩ :=
      (exists_alone_of_each hdistinct htyped h).2 e hmem
    obtain ⟨part', alone', hpart', halone', hfunction'⟩ :=
      (exists_alone_of_each hdistinct' htyped' h').2 e (hperm.mem_iff.1 hmem)
    -- Alone, the step of the entry has one outcome under the one answer.
    have hrun := Dialogue.runFixed_eq_iff.2
      ⟨part, halone, fun asked hasked => hlog asked (hpart hasked)⟩
    have hrun' := Dialogue.runFixed_eq_iff.2
      ⟨part', halone', fun asked hasked => hlog' asked (hpart' hasked)⟩
    obtain ⟨-, rfl⟩ := Outcome.done.inj (hrun.symm.trans hrun')
    have hsame := hfunction'.trans hfunction.symm
    rwa [Entry.function?, Entry.function?, address?_of_grows (grows_of_returns_each h),
      address?_of_grows (grows_of_returns_each h'), haddress, Option.bind_some,
      Option.bind_some] at hsame
  · have hentry' : ¬ IsAddressOf list' before.db address := by
      rintro ⟨e, hmem, haddress⟩
      exact hentry ⟨e, hperm.mem_iff.2 hmem, haddress⟩
    rw [(frame_of_returns_each h).untouched hentry, (frame_of_returns_each h').untouched hentry']

/-- What is different is reported in any order. -/
lemma report_perm {change : Option FunctionRecord → Option FunctionRecord → Bool}
    {db final final' : Database} {list' : List Entry} (hperm : list.Perm list')
    (hsame : ∀ e ∈ list', e.function? final' = e.function? final) :
    (report change db final' list').Perm (report change db final list) := by
  rw [report_congr (fun _ _ => rfl) hsame]
  exact ((hperm.symm.filter _).map _)

/-- If all types that some entries with distinct offsets mention are there, and a run over them that
answers all conflicts alike comes to its end, then so does such a run in any other order.  It leaves
the same types and the same functions, and reports the same additions and updates, in another
order. -/
theorem perm_of_runFixed {decision : Decision} {db : Database} {list' : List Entry}
    {progress : Progress}
    (hrun : (each (entry platform) list { db }).runFixed decision = .done () progress)
    (hdistinct : (list.map Entry.offset).Nodup) (htyped : ∀ e ∈ list, e.IsTyped db)
    (hperm : list.Perm list') :
    ∃ progress', (each (entry platform) list' { db }).runFixed decision = .done () progress' ∧
      progress'.db.userTypes = progress.db.userTypes ∧
      (∀ address, progress'.db.functionAt? address = progress.db.functionAt? address) ∧
      progress'.added.Perm progress.added ∧ progress'.updated.Perm progress.updated := by
  obtain ⟨log, hends, hlog⟩ := Dialogue.runFixed_eq_iff.1 hrun
  have hdistinct' : (list'.map Entry.offset).Nodup := (hperm.map Entry.offset).nodup_iff.1 hdistinct
  have htyped' : ∀ e ∈ list', e.IsTyped db := fun e hmem => htyped e (hperm.mem_iff.2 hmem)
  obtain ⟨htypes, halone⟩ := exists_alone_of_each hdistinct htyped hends
  have halone' : ∀ e ∈ list', ∃ part alone, (∀ asked ∈ part, asked.2 = some decision) ∧
      (entry platform e).Returns { db } part () alone := by
    intro e hmem
    obtain ⟨part, alone, hpart, hreturns, -⟩ := halone e (hperm.mem_iff.2 hmem)
    exact ⟨part, alone, fun asked hasked => hlog asked (hpart hasked), hreturns⟩
  obtain ⟨log', progress', hlog', hends'⟩ := exists_each_of_alone hdistinct' htyped' halone'
  have hfunctions := functionAt?_of_perm hperm hdistinct htyped hends hlog hends' hlog'
  have hsame : ∀ e ∈ list', e.function? progress'.db = e.function? progress.db := by
    intro e _
    rw [Entry.function?, Entry.function?, address?_of_grows (grows_of_returns_each hends),
      address?_of_grows (grows_of_returns_each hends')]
    congr 1
    exact funext hfunctions
  refine ⟨progress', Dialogue.runFixed_eq_iff.2 ⟨log', hends', hlog'⟩,
    (exists_alone_of_each hdistinct' htyped' hends').1.trans htypes.symm, hfunctions, ?_, ?_⟩
  · rw [reports_of_returns_each Step.added_eq hends hdistinct,
      reports_of_returns_each Step.added_eq hends' hdistinct']
    exact report_perm hperm hsame
  · rw [reports_of_returns_each Step.updated_eq hends hdistinct,
      reports_of_returns_each Step.updated_eq hends' hdistinct']
    exact report_perm hperm hsame

/-- The database `playerDatabase` with the types that the binding file mentions. -/
def typedDatabase : Database :=
  { playerDatabase with
    userTypes := ["Player", "Team"].map fun name => ⟨.struct, ⟨[], .plain name⟩, 0⟩ }

/-- The functions of `playerFile` may as well be handled backwards over `typedDatabase`. -/
theorem perm_of_runFixed_player :
    ∃ progress progress',
      (each (entry .windows) (entries .windows [playerFile])
        { db := typedDatabase }).runFixed .keepExisting = .done () progress ∧
      ((entries .windows [playerFile]).map Entry.offset).Nodup ∧
      (∀ e ∈ entries .windows [playerFile], e.IsTyped typedDatabase) ∧
      (entries .windows [playerFile]).Perm (entries .windows [playerFile]).reverse ∧
      progress.added = ["Player::team"] ∧ progress.updated = ["Player::update"] ∧
      (each (entry .windows) (entries .windows [playerFile]).reverse
        { db := typedDatabase }).runFixed .keepExisting = .done () progress' ∧
      progress'.db.userTypes = progress.db.userTypes ∧
      (∀ address, progress'.db.functionAt? address = progress.db.functionAt? address) ∧
      progress'.added.Perm progress.added ∧ progress'.updated.Perm progress.updated := by
  let run := (each (entry .windows) (entries .windows [playerFile])
    { db := typedDatabase }).runFixed .keepExisting
  have hrun : run = .done () run.progress := Outcome.eq_done_of_isDone (by decide +kernel)
  obtain ⟨hdistinct, hadded, hupdated⟩ :
      ((entries .windows [playerFile]).map Entry.offset).Nodup ∧
        run.progress.added = ["Player::team"] ∧ run.progress.updated = ["Player::update"] := by
    decide +kernel
  have htyped : ∀ e ∈ entries .windows [playerFile], e.IsTyped typedDatabase := by
    simp only [Entry.IsTyped]
    decide +kernel
  have hperm := (List.reverse_perm (entries .windows [playerFile])).symm
  obtain ⟨progress', hrun', hrest⟩ := perm_of_runFixed hrun hdistinct htyped hperm
  exact ⟨run.progress, progress', hrun, hdistinct, htyped, hperm, hadded, hupdated, hrun', hrest⟩

end Sync

end BindingSync
