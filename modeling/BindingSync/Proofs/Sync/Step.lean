import BindingSync.Proofs.Sync.Agreement
import BindingSync.Proofs.Sync.Declared

/-!
# One step of a synchronization

A step handles one declaration with an offset.  `Sync.Step` says everything that a step does
when it comes to its end: where it found or put the function, what its types were resolved to,
what was agreed on, how the parameters were placed, and what the progress is afterwards.
`Sync.nonempty_step_of_returns` takes a step apart once; whatever is to be known about steps
follows from the fields of this structure.
-/

namespace BindingSync

open BindingSync.Binding
open BindingSync.Text
open BindingSync.Dialogue (Transcript)

namespace Sync

variable {before after : Progress} {log : Transcript}

/-! ### Resolving types -/

/-- Between two progresses nothing happened but that types were resolved. -/
structure Resolving (before after : Progress) : Prop where
  grows : before.db.Grows after.db
  functions : after.db.functions = before.db.functions
  namespaces : after.db.namespaces = before.db.namespaces
  added : after.added = before.added
  updated : after.updated = before.updated
  warnings : ∃ raised, after.warnings = before.warnings ++ raised ∧
    ∀ warning ∈ raised, ∃ path kind, warning = .newType path kind

namespace Resolving

/-- Resolving nothing changes nothing. -/
lemma refl (progress : Progress) : Resolving progress progress :=
  ⟨.refl _, rfl, rfl, rfl, rfl, [], by simp, by simp⟩

/-- Resolving some types and then others is resolving types. -/
lemma trans {a b c : Progress} (hab : Resolving a b) (hbc : Resolving b c) : Resolving a c := by
  obtain ⟨first, hfirst, hfirst'⟩ := hab.warnings
  obtain ⟨second, hsecond, hsecond'⟩ := hbc.warnings
  refine ⟨hab.grows.trans hbc.grows, hbc.functions.trans hab.functions,
    hbc.namespaces.trans hab.namespaces, hbc.added.trans hab.added, hbc.updated.trans hab.updated,
    first ++ second, by rw [hsecond, hfirst, List.append_assoc], fun warning hmem => ?_⟩
  rcases List.mem_append.1 hmem with hmem | hmem
  · exact hfirst' warning hmem
  · exact hsecond' warning hmem

/-- Resolving types leaves every function where and as it is. -/
lemma functionAt? (h : Resolving before after) (address : Int) :
    after.db.functionAt? address = before.db.functionAt? address := by
  rw [Database.functionAt?, h.functions, Database.functionAt?]

end Resolving

/-- Resolving an expression in a progress is resolving it in its database. -/
lemma resolve_apply (expr : TypeExpr) (progress : Progress) :
    resolve expr progress =
      match Resolution.resolve progress.db expr with
      | .error error => .done (.stopped (.failed error) progress)
      | .ok r => .done (.done r.type
          { progress with db := r.db, warnings := progress.warnings ++ r.warnings }) := by
  have hdatabase : database progress = .done (.done progress.db progress) := rfl
  rw [resolve, bind_of_done hdatabase]
  split <;> next heq => rw [heq]; rfl

/-- Resolving an expression that is known reads it and changes nothing. -/
lemma resolve_of_known {expr : TypeExpr} {type : DataType}
    (hknown : Declared.KnownType before.db expr)
    (hread : Declared.type? before.db expr = some type) :
    resolve expr before = .done (.done type before) := by
  rw [resolve_apply, Declared.resolve_of_known hknown hread]
  simp

/-- After an expression was resolved, it is known and reads as what was returned. -/
lemma resolving_of_returns_resolve {expr : TypeExpr} {type : DataType}
    (h : (resolve expr).Returns before log type after) :
    log = [] ∧ Resolving before after ∧ Declared.KnownType after.db expr ∧
      Declared.type? after.db expr = some type := by
  rw [Returns, resolve_apply] at h
  split at h
  · simp at h
  · next r heq =>
    obtain ⟨rfl, hout⟩ := Dialogue.ends_done_iff.1 h
    cases hout
    obtain ⟨hgrows, hfunctions, hnamespaces⟩ := Declared.grows_of_resolve heq
    obtain ⟨hknown, hread⟩ := Declared.known_of_resolve heq
    exact ⟨rfl, ⟨hgrows, hfunctions, hnamespaces, rfl, rfl, r.warnings, rfl,
      Declared.warnings_of_resolve heq⟩, hknown, hread⟩

/-- The return type is resolved. -/
lemma resolving_of_returns_returnTypeOf {decl : FunctionDecl} {type : Option DataType}
    (h : (returnTypeOf decl).Returns before log type after) :
    log = [] ∧ Resolving before after ∧
      (∀ expr ∈ decl.returnType.toList, Declared.KnownType after.db expr) ∧
      Declared.returnType? after.db decl = some type := by
  unfold returnTypeOf at h
  rw [Declared.returnType?]
  cases hdecl : decl.returnType with
  | none =>
    rw [hdecl] at h
    obtain ⟨rfl, rfl, rfl⟩ := returns_pure_iff.1 h
    exact ⟨rfl, .refl _, by simp, rfl⟩
  | some expr =>
    rw [hdecl] at h
    obtain ⟨first, found, between, second, hresolve, hpure, rfl⟩ := returns_bind_iff.1 h
    obtain ⟨rfl, rfl, rfl⟩ := returns_pure_iff.1 hpure
    obtain ⟨rfl, hresolving, hknown, hread⟩ := resolving_of_returns_resolve hresolve
    exact ⟨rfl, hresolving, by simpa using hknown, by simp [hread]⟩

/-- The type of the implicit `this` is resolved. -/
lemma resolving_of_returns_thisParams {cls : ClassDecl} {decl : FunctionDecl}
    {params : List Parameter} (h : (thisParams cls decl).Returns before log params after) :
    log = [] ∧ Resolving before after ∧
      (decl.hasThis = true → Declared.KnownType after.db (.pointerTo cls.name)) ∧
      Declared.thisParams? after.db cls decl = some params := by
  unfold thisParams at h
  rw [Declared.thisParams?]
  split at h
  · next hthis =>
    obtain ⟨first, found, between, second, hresolve, hpure, rfl⟩ := returns_bind_iff.1 h
    obtain ⟨rfl, rfl, rfl⟩ := returns_pure_iff.1 hpure
    obtain ⟨rfl, hresolving, hknown, hread⟩ := resolving_of_returns_resolve hresolve
    exact ⟨rfl, hresolving, fun _ => hknown, by simp [hthis, hread]⟩
  · next hthis =>
    obtain ⟨rfl, rfl, rfl⟩ := returns_pure_iff.1 h
    exact ⟨rfl, .refl _, fun hyes => absurd hyes hthis, by simp [hthis]⟩

/-- The types of the written parameters are resolved one after the other. -/
lemma resolving_of_returns_declaredParams {decls : List ParamDecl} {params : List Parameter}
    (h : (declaredParams decls).Returns before log params after) :
    log = [] ∧ Resolving before after ∧
      (∀ decl ∈ decls, Declared.KnownType after.db decl.type) ∧
      Declared.writtenParams? after.db decls = some params := by
  induction decls generalizing before log params with
  | nil =>
    obtain ⟨rfl, rfl, rfl⟩ := returns_pure_iff.1 h
    exact ⟨rfl, .refl _, by simp, rfl⟩
  | cons decl rest ih =>
    obtain ⟨first, type, between, later, hresolve, hlater, rfl⟩ := returns_bind_iff.1 h
    obtain ⟨second, others, between', last, hrest, hpure, rfl⟩ := returns_bind_iff.1 hlater
    obtain ⟨rfl, rfl, rfl⟩ := returns_pure_iff.1 hpure
    obtain ⟨rfl, hfirst, hknown, hread⟩ := resolving_of_returns_resolve hresolve
    obtain ⟨rfl, hsecond, hknowns, hreads⟩ := ih hrest
    refine ⟨rfl, hfirst.trans hsecond, ?_, ?_⟩
    · exact List.forall_mem_cons.2 ⟨hknown.of_grows hsecond.grows, hknowns⟩
    · exact Declared.writtenParams?_cons.2
        ⟨type, others, Declared.type?_of_grows hsecond.grows hread, hreads, rfl⟩

/-! ### Locating functions -/

/-- The record of a function that is created for a declaration. -/
def newFunction (cls : ClassDecl) (decl : FunctionDecl) (address : Int) : FunctionRecord :=
  { address, name := decl.name, namespacePath := some (namespaceOf cls) }

/-- The database with a function that is created for a declaration, and with its namespace. -/
def withNewFunction (db : Database) (cls : ClassDecl) (decl : FunctionDecl) (address : Int) :
    Database :=
  (namespacesBelow (db.putFunction { address, name := decl.name }) [] (namespaceOf cls)).putFunction
    (newFunction cls decl address)

/-- Either a function was found at the address, or there was none and it was created. -/
inductive Located (cls : ClassDecl) (decl : FunctionDecl) (address : Int) (before : Progress) :
    FunctionRecord → Bool → Progress → Prop
  | found {function : FunctionRecord} (h : before.db.functionAt? address = some function) :
      Located cls decl address before function false before
  | created (hnone : before.db.functionAt? address = none) (hopen : before.db.isLocked = false) :
      Located cls decl address before (newFunction cls decl address) true
        { before with db := withNewFunction before.db cls decl address }

/-- The namespaces of a class are at least the one of the class itself. -/
lemma namespaceOf_ne_nil (cls : ClassDecl) : namespaceOf cls ≠ [] := by
  simpa [namespaceOf] using cls.name.segments_ne_nil

/-- Creating namespaces lets the database grow and leaves the functions alone. -/
lemma grows_namespacesBelow (path : List WideString) (db : Database) (parent : List WideString) :
    db.Grows (namespacesBelow db parent path) ∧
      (namespacesBelow db parent path).functions = db.functions := by
  induction path generalizing db parent with
  | nil => exact ⟨.refl _, rfl⟩
  | cons segment rest ih =>
    rw [namespacesBelow]
    split
    · exact ih _ _
    · obtain ⟨hgrows, hfunctions⟩ := ih (db.addNamespace ⟨parent ++ [segment], rest.isEmpty⟩)
        (parent ++ [segment])
      exact ⟨(db.grows_addNamespace _).trans hgrows, hfunctions⟩

/-- Creating a function lets the database grow. -/
lemma grows_withNewFunction (db : Database) (cls : ClassDecl) (decl : FunctionDecl)
    (address : Int) : db.Grows (withNewFunction db cls decl address) :=
  ((db.grows_putFunction _).trans (grows_namespacesBelow _ _ _).1).trans
    (Database.grows_putFunction _ _)

/-- Creating a function changes what stands at its address and nothing else. -/
lemma functionAt?_withNewFunction (db : Database) (cls : ClassDecl) (decl : FunctionDecl)
    (address other : Int) :
    (withNewFunction db cls decl address).functionAt? other =
      if address = other then some (newFunction cls decl address) else db.functionAt? other := by
  have hbelow : (namespacesBelow (db.putFunction { address, name := decl.name }) []
      (namespaceOf cls)).functionAt? other =
        if address = other then some { address, name := decl.name } else db.functionAt? other := by
    rw [Database.functionAt?, (grows_namespacesBelow _ _ _).2]
    exact db.functionAt?_putFunction _ other
  rw [withNewFunction, Database.functionAt?_putFunction, hbelow]
  by_cases h : address = other <;> simp [h, newFunction]

/-- Locating a function finds or creates it, or it stops at a locked database. -/
lemma locate_apply (cls : ClassDecl) (decl : FunctionDecl) (address : Int) (before : Progress) :
    locate cls decl address before = .done
      (match before.db.functionAt? address with
        | some function => .done (function, false) before
        | none =>
          if before.db.isLocked then
            .stopped (.failed (.cannotCreate address (cls.qualify decl))) before
          else .done (newFunction cls decl address, true)
            { before with db := withNewFunction before.db cls decl address }) := by
  have hdatabase : database before = .done (.done before.db before) := rfl
  rw [locate, bind_of_done hdatabase]
  cases hfound : before.db.functionAt? address with
  | some function => rfl
  | none =>
    cases hlocked : before.db.isLocked with
    | true =>
      simp only [Database.createFunction?, hlocked, Bool.true_or, if_true]
      rfl
    | false =>
      simp only [Database.createFunction?, hlocked, hfound, Option.isSome_none, Bool.or_false,
        Bool.false_eq_true, if_false, ensureNamespace, List.isEmpty_iff, namespaceOf_ne_nil cls]
      rfl

/-- Where locating returns, the function was found or created. -/
lemma located_of_returns {cls : ClassDecl} {decl : FunctionDecl} {address : Int}
    {found : FunctionRecord × Bool} (h : (locate cls decl address).Returns before log found after) :
    log = [] ∧ Located cls decl address before found.1 found.2 after := by
  rw [Returns, locate_apply] at h
  obtain ⟨rfl, hout⟩ := Dialogue.ends_done_iff.1 h
  refine ⟨rfl, ?_⟩
  split at hout
  · next function hfound =>
    cases hout
    exact .found hfound
  · next hnone =>
    split at hout
    · cases hout
    · next hopen =>
      cases hout
      exact .created hnone (by simpa using hopen)

namespace Located

variable {cls : ClassDecl} {decl : FunctionDecl} {address : Int} {function : FunctionRecord}
  {isNew : Bool}

/-- Locating a function lets the database grow. -/
lemma grows (h : Located cls decl address before function isNew after) :
    before.db.Grows after.db := by
  cases h with
  | found _ => exact .refl _
  | created _ _ => exact grows_withNewFunction _ _ _ _

/-- The located function stands at the address, and the others are as they were. -/
lemma functionAt? (h : Located cls decl address before function isNew after) (other : Int) :
    after.db.functionAt? other =
      if address = other then some function else before.db.functionAt? other := by
  cases h with
  | found hfound =>
    by_cases hother : address = other
    · rw [if_pos hother, ← hother, hfound]
    · rw [if_neg hother]
  | created _ _ => exact functionAt?_withNewFunction _ _ _ _ _

/-- The located function has its address. -/
lemma address_eq (h : Located cls decl address before function isNew after) :
    function.address = address := by
  cases h with
  | found hfound => exact Database.address_of_functionAt? hfound
  | created _ _ => rfl

end Located

/-! ### Placing parameters and taking notes -/

/-- Where placing is not needed the parameters stay as they are; else they are placed, with
the warnings of placing. -/
inductive Placing (convention : Option CallingConvention) (location : String)
    (params : List Parameter) : List Parameter → StorageMode → List Warning → Prop
  | dynamic (h : Allocation.isNeeded convention params = false) :
      Placing convention location params params .dynamic []
  | custom {placed : List Parameter} {raised : List Warning}
      (h : Allocation.isNeeded convention params = true)
      (hplace : Allocation.place convention params location = (raised, .ok placed)) :
      Placing convention location params placed .custom raised

namespace Placing

variable {convention : Option CallingConvention} {location : String}
  {params placed : List Parameter} {mode : StorageMode} {raised : List Warning}

/-- Placing keeps names and types. -/
lemma map_shape (h : Placing convention location params placed mode raised) :
    placed.map Allocation.shape = params.map Allocation.shape := by
  cases h with
  | dynamic _ => rfl
  | custom _ hplace => exact (Allocation.shape_place hplace).1

/-- A placed parameter has the type of one of the parameters. -/
lemma exists_of_mem (h : Placing convention location params placed mode raised) :
    ∀ param ∈ placed, ∃ origin ∈ params, origin.type = param.type := by
  intro param hmem
  have hshape := h.map_shape ▸ List.mem_map_of_mem hmem
  obtain ⟨origin, horigin, heq⟩ := List.mem_map.1 hshape
  exact ⟨origin, horigin, congrArg Prod.snd heq⟩

/-- If all parameters come from analysis, so do all placed ones. -/
lemma source_eq (h : Placing convention location params placed mode raised)
    (hsource : ∀ param ∈ params, param.source = .analysis) :
    ∀ param ∈ placed, param.source = .analysis := by
  cases h with
  | dynamic _ => exact hsource
  | custom _ hplace => exact fun param hmem => ((Allocation.shape_place hplace).2 param hmem).1

/-- The warnings of placing are about parameters of unknown length. -/
lemma warnings (h : Placing convention location params placed mode raised) :
    ∀ warning ∈ raised, ∃ param, warning = .undefinedParameter location param := by
  cases h with
  | dynamic _ => simp
  | custom _ hplace =>
    have hfirst := congrArg Prod.fst hplace
    rw [← show _ = raised from hfirst]
    exact Allocation.warnings_placeFrom

end Placing

/-- The progress with more warnings. -/
def warned (raised : List Warning) (progress : Progress) : Progress :=
  { progress with warnings := progress.warnings ++ raised }

/-- Placing as a part of a run. -/
lemma placed_of_placing {convention : Option CallingConvention} {location : String}
    {params result : List Parameter} {mode : StorageMode} {raised : List Warning}
    (h : Placing convention location params result mode raised) (before : Progress) :
    placed convention params location before =
      .done (.done (result, mode) (warned raised before)) := by
  cases h with
  | dynamic hneeded =>
    rw [placed, if_neg (by simp [hneeded]), warned, List.append_nil]
    rfl
  | custom hneeded hplace =>
    rw [placed, if_pos hneeded, hplace]
    rfl

/-- Where placing returns, the parameters were placed or did not need it. -/
lemma placing_of_returns {convention : Option CallingConvention} {location : String}
    {params : List Parameter} {result : List Parameter × StorageMode}
    (h : (placed convention params location).Returns before log result after) :
    ∃ raised, log = [] ∧ Placing convention location params result.1 result.2 raised ∧
      after = warned raised before := by
  unfold placed at h
  split at h
  · next hneeded =>
    obtain ⟨first, _, between, second, hwarn, hresult, rfl⟩ := returns_bind_iff.1 h
    obtain ⟨rfl, -, rfl⟩ := (returns_of_done rfl).1 hwarn
    split at hresult
    · next placed hplace =>
      obtain ⟨rfl, rfl, rfl⟩ := returns_pure_iff.1 hresult
      exact ⟨_, rfl, .custom hneeded (Prod.ext rfl hplace), rfl⟩
    · exact absurd hresult not_returns_stop
  · next hneeded =>
    obtain ⟨rfl, rfl, rfl⟩ := returns_pure_iff.1 h
    exact ⟨[], rfl, .dynamic (by simpa using hneeded), by simp [warned]⟩

/-- The progress with a note of what became of a function. -/
def noted (isNew : Bool) (old new : FunctionRecord) (location : String) (progress : Progress) :
    Progress :=
  if isNew then { progress with added := progress.added ++ [location] }
  else if new ≠ old then { progress with updated := progress.updated ++ [location] }
  else progress

/-- A note as a part of a run. -/
lemma note_apply (isNew : Bool) (old new : FunctionRecord) (location : String)
    (before : Progress) :
    note isNew old new location before =
      .done (.done () (noted isNew old new location before)) := by
  unfold note noted
  split
  · rfl
  · split <;> rfl

/-- A note does not change the database. -/
@[simp] lemma db_noted (isNew : Bool) (old new : FunctionRecord) (location : String)
    (progress : Progress) : (noted isNew old new location progress).db = progress.db := by
  unfold noted
  split
  · rfl
  · split <;> rfl

/-- A new function is noted as added. -/
lemma added_noted (isNew : Bool) (old new : FunctionRecord) (location : String)
    (progress : Progress) : (noted isNew old new location progress).added =
      progress.added ++ if isNew then [location] else [] := by
  unfold noted
  split
  · rfl
  · split <;> simp

/-- A function that was there and is different now is noted as updated. -/
lemma updated_noted (isNew : Bool) (old new : FunctionRecord) (location : String)
    (progress : Progress) : (noted isNew old new location progress).updated =
      progress.updated ++ if isNew = false ∧ new ≠ old then [location] else [] := by
  unfold noted
  split
  · next hnew => simp [hnew]
  · next hold =>
    split
    · next hne => simp [hold, hne]
    · next heq => simp [heq]

/-! ### Whole steps -/

/-- What a step does when it comes to its end. -/
structure Step (platform : Platform) (cls : ClassDecl) (decl : FunctionDecl) (offset : Int)
    (before : Progress) (log : Transcript) (after : Progress) where
  imageBase : Int
  imageBase_eq : before.db.imageBase = some imageBase
  /-- The function as it was found or created. -/
  function : FunctionRecord
  isNew : Bool
  /-- The progress once the function is there. -/
  start : Progress
  located : Located cls decl (imageBase + offset) before function isNew start
  /-- The progress once all types are resolved. -/
  resolved : Progress
  resolving : Resolving start resolved
  known : Declared.Known resolved.db cls decl
  returnType : Option DataType
  returnType_eq : Declared.returnType? resolved.db decl = some returnType
  params : List Parameter
  params_eq : Declared.params? resolved.db cls decl = some params
  agreed : Reconciliation
  agrees : (Reconciliation.reconcile function params returnType (cls.qualify decl)
    decl.isDestructor).Ends log (.ok agreed)
  placed : List Parameter
  mode : StorageMode
  raised : List Warning
  placing : Placing (CallingConvention.select platform (cls.isLinkedOn platform.tag) decl.dispatch)
    (cls.qualify decl) agreed.params placed mode raised
  /-- The function with its new signature. -/
  result : FunctionRecord
  result_eq : result = function.withSignature
    ((CallingConvention.select platform (cls.isLinkedOn platform.tag) decl.dispatch).map
      fun convention => convention.databaseName)
    agreed.returnType placed mode .analysis
  after_eq : after = noted isNew function result (cls.qualify decl)
    { warned raised resolved with db := resolved.db.putFunction result }

/-- Without an image base there is no address. -/
lemma returns_addressOf_iff {offset address : Int} :
    (addressOf offset).Returns before log address after ↔
      log = [] ∧ after = before ∧
        ∃ imageBase, before.db.imageBase = some imageBase ∧ address = imageBase + offset := by
  have hdatabase : database before = .done (.done before.db before) := rfl
  rw [Returns, addressOf, bind_of_done hdatabase]
  cases before.db.imageBase with
  | none => simp [stop]
  | some imageBase =>
    simp only [pure_apply, Dialogue.ends_done_iff, Outcome.done.injEq, Option.some.injEq,
      exists_eq_left']
    tauto

/-- A dialogue that knows nothing of the progress leaves it as it is. -/
lemma returns_consult_iff {α : Type} {dialogue : Dialogue (Except Stop α)} {value : α} :
    (consult dialogue).Returns before log value after ↔
      dialogue.Ends log (.ok value) ∧ after = before := by
  simp only [Returns, consult, Dialogue.ends_bind_iff]
  constructor
  · rintro ⟨first, result, second, hends, hrest, rfl⟩
    cases result with
    | error cause => simp at hrest
    | ok found =>
      obtain ⟨rfl, hout⟩ := Dialogue.ends_done_iff.1 hrest
      cases hout
      exact ⟨by simpa using hends, rfl⟩
  · rintro ⟨hends, rfl⟩
    exact ⟨log, .ok value, [], hends, .done _, by simp⟩

/-- The last part of a step writes the function and takes a note. -/
lemma write_apply (function result : FunctionRecord) (isNew : Bool) (location : String)
    (before : Progress) :
    (do
      setDatabase ((← database).putFunction result)
      note isNew function result location : Sync Unit) before =
      .done (.done () (noted isNew function result location
        { before with db := before.db.putFunction result })) := by
  have hdatabase : database before = .done (.done before.db before) := rfl
  have hset : setDatabase (before.db.putFunction result) before =
      .done (.done () { before with db := before.db.putFunction result }) := rfl
  rw [bind_of_done hdatabase, bind_of_done hset, note_apply]

/-- A step that comes to its end did what steps do. -/
theorem nonempty_step_of_returns {platform : Platform} {cls : ClassDecl} {decl : FunctionDecl}
    {offset : Int} (h : (addressed platform cls decl offset).Returns before log () after) :
    Nonempty (Step platform cls decl offset before log after) := by
  unfold addressed at h
  obtain ⟨_, address, _, _, haddress, hrest₁, rfl⟩ := returns_bind_iff.1 h
  obtain ⟨rfl, rfl, imageBase, himage, rfl⟩ := returns_addressOf_iff.1 haddress
  obtain ⟨_, ⟨function, isNew⟩, start, _, hlocate, hrest₂, rfl⟩ := returns_bind_iff.1 hrest₁
  obtain ⟨rfl, hlocated⟩ := located_of_returns hlocate
  obtain ⟨_, returnType, typed₁, _, hreturn, hrest₃, rfl⟩ := returns_bind_iff.1 hrest₂
  obtain ⟨rfl, hresolving₁, hknown₁, hread₁⟩ := resolving_of_returns_returnTypeOf hreturn
  obtain ⟨_, this, typed₂, _, hthis, hrest₄, rfl⟩ := returns_bind_iff.1 hrest₃
  obtain ⟨rfl, hresolving₂, hknown₂, hread₂⟩ := resolving_of_returns_thisParams hthis
  obtain ⟨_, written, resolved, _, hwritten, hrest₅, rfl⟩ := returns_bind_iff.1 hrest₄
  obtain ⟨rfl, hresolving₃, hknown₃, hread₃⟩ := resolving_of_returns_declaredParams hwritten
  obtain ⟨_, agreed, consulted, _, hconsult, hrest₆, rfl⟩ := returns_bind_iff.1 hrest₅
  obtain ⟨hagrees, rfl⟩ := returns_consult_iff.1 hconsult
  obtain ⟨_, ⟨placed, mode⟩, _, _, hplaced, hrest₇, rfl⟩ := returns_bind_iff.1 hrest₆
  obtain ⟨raised, rfl, hplacing, rfl⟩ := placing_of_returns hplaced
  obtain ⟨rfl, -, rfl⟩ := (returns_of_done (write_apply _ _ _ _ _)).1 hrest₇
  have hgrows := hresolving₂.grows.trans hresolving₃.grows
  have hreads : Declared.returnType? consulted.db decl = some returnType :=
    Declared.returnType?_of_grows hgrows hread₁
  refine ⟨{
    imageBase, imageBase_eq := himage, function, isNew, start, located := hlocated
    resolved := consulted, resolving := hresolving₁.trans (hresolving₂.trans hresolving₃)
    known := ?_
    returnType, returnType_eq := hreads
    params := this ++ retParams returnType ++ written
    params_eq := ?_
    agreed, agrees := by simpa using hagrees
    placed, mode, raised, placing := hplacing
    result := _, result_eq := rfl
    after_eq := rfl }⟩
  · intro expr hmem
    simp only [Declared.mentioned, List.mem_append, List.mem_map] at hmem
    rcases hmem with (hmem | hmem) | ⟨param, hmem, rfl⟩
    · exact (hknown₁ expr hmem).of_grows hgrows
    · split at hmem
      · next hthis =>
        obtain rfl := List.mem_singleton.1 hmem
        exact (hknown₂ hthis).of_grows hresolving₃.grows
      · simp at hmem
    · exact hknown₃ param hmem
  · exact Declared.params?_eq_some_iff.2 ⟨returnType, this, written, hreads,
      Declared.thisParams?_of_grows hresolving₃.grows hread₂, hread₃, rfl⟩

namespace Step

variable {platform : Platform} {cls : ClassDecl} {decl : FunctionDecl} {offset : Int}

/-- The address of the declaration. -/
def address (step : Step platform cls decl offset before log after) : Int :=
  step.imageBase + offset

variable (step : Step platform cls decl offset before log after)

/-- At the end of a step the function is written to the database in which its types were
resolved. -/
lemma db_eq : after.db = step.resolved.db.putFunction step.result := by
  conv_lhs => rw [step.after_eq, db_noted]

/-- The written function returns what was agreed on, and what it returned before if that is
nothing. -/
lemma returnValue_eq :
    step.result.returnValue =
      (step.agreed.returnType.map fun type => ⟨type, .analysis⟩).or step.function.returnValue := by
  rw [step.result_eq]
  rfl

/-- The written function has the address of the declaration. -/
lemma address_result : step.result.address = step.address := by
  rw [step.result_eq]
  exact step.located.address_eq

/-- The database in which the types were resolved grows into the one at the end. -/
lemma grows_resolved : step.resolved.db.Grows after.db :=
  step.db_eq ▸ Database.grows_putFunction _ _

include step in
/-- A step lets the database grow. -/
lemma grows : before.db.Grows after.db :=
  (step.located.grows.trans step.resolving.grows).trans step.grows_resolved

/-- A step changes what stands at its address and nothing else. -/
lemma functionAt? (other : Int) :
    after.db.functionAt? other =
      if step.address = other then some step.result else before.db.functionAt? other := by
  rw [step.db_eq, Database.functionAt?_putFunction, step.address_result,
    step.resolving.functionAt?, step.located.functionAt?]
  by_cases h : step.address = other
  · rw [if_pos h, if_pos h]
  · rw [if_neg h, if_neg h]
    exact if_neg h

/-- A step starts from the function at its address, or from a new one. -/
lemma function_eq :
    (before.db.functionAt? step.address = some step.function ∧ step.isNew = false) ∨
      (before.db.functionAt? step.address = none ∧
        step.function = newFunction cls decl step.address ∧ step.isNew = true) := by
  obtain ⟨base, _, function, isNew, start, located⟩ := step
  cases located with
  | found h => exact .inl ⟨h, rfl⟩
  | created hnone _ => exact .inr ⟨hnone, rfl, rfl⟩

end Step

end Sync

end BindingSync
