import BindingSync.Proofs.Database.Sound
import BindingSync.Proofs.Sync.Step

/-!
# Runs keep databases sound

A run changes the database while it goes on, and it may end at any point: a file cannot be read,
a conflict is answered with an abort, a parameter finds no register.  What was done before stays
done, so the database has to be sound at every point.  `Sync.Keeps` says this of a part of a run,
however it ends, together with what is known of the value that it returns.  The rule for two
parts in a row (`Sync.Keeps.bind`) goes along the `do` blocks of which runs are made, and what is
known of a value stays known because the database only grows.
-/

namespace BindingSync

open BindingSync.Binding
open BindingSync.Text
open BindingSync.Dialogue (Transcript)

namespace Sync

variable {α β : Type} {before : Progress}

/-- However the part ends, the database has grown into a sound one, and where it returns, what is
said of the value holds. -/
def Keeps (part : Sync α) (before : Progress) (good : α → Database → Prop) : Prop :=
  ∀ log outcome, (part before).Ends log outcome →
    before.db.Grows outcome.progress.db ∧ outcome.progress.db.Sound ∧
      ∀ value after, outcome = .done value after → good value after.db

namespace Keeps

/-- A part that silently returns keeps the database sound if the new database is. -/
lemma of_done {part : Sync α} {value : α} {after : Progress} {good : α → Database → Prop}
    (h : part before = .done (.done value after)) (hgrows : before.db.Grows after.db)
    (hsound : after.db.Sound) (hgood : good value after.db) : Keeps part before good := by
  intro log outcome hends
  rw [h] at hends
  obtain ⟨rfl, rfl⟩ := Dialogue.ends_done_iff.1 hends
  refine ⟨hgrows, hsound, fun a progress heq => ?_⟩
  cases heq
  exact hgood

/-- Doing nothing keeps the database sound. -/
lemma pure {value : α} {good : α → Database → Prop} (hsound : before.db.Sound)
    (hgood : good value before.db) : Keeps (Pure.pure value) before good :=
  of_done rfl (.refl _) hsound hgood

/-- A part that silently ends the run where it stands keeps the database sound. -/
lemma of_stopped {part : Sync α} {cause : Stop} {good : α → Database → Prop}
    (h : part before = .done (.stopped cause before)) (hsound : before.db.Sound) :
    Keeps part before good := by
  intro log outcome hends
  rw [h] at hends
  obtain ⟨rfl, rfl⟩ := Dialogue.ends_done_iff.1 hends
  exact ⟨.refl _, hsound, fun a progress heq => by cases heq⟩

/-- Two parts in a row keep the database sound if the second does after whatever the first may
return. -/
lemma bind {part : Sync α} {next : α → Sync β} {mid : α → Database → Prop}
    {good : β → Database → Prop} (hpart : Keeps part before mid)
    (hnext : ∀ value between, before.db.Grows between.db → between.db.Sound →
      mid value between.db → Keeps (next value) between good) :
    Keeps (part >>= next) before good := by
  intro log outcome hends
  rw [bind_apply, Dialogue.ends_bind_iff] at hends
  obtain ⟨first, middle, second, hfirst, hsecond, -⟩ := hends
  obtain ⟨hgrows, hsound, hmid⟩ := hpart first middle hfirst
  cases middle with
  | done value between =>
    obtain ⟨hgrows', hsound', hgood⟩ :=
      hnext value between hgrows hsound (hmid value between rfl) second outcome hsecond
    exact ⟨hgrows.trans hgrows', hsound', hgood⟩
  | stopped cause between =>
    obtain ⟨rfl, rfl⟩ := Dialogue.ends_done_iff.1 hsecond
    exact ⟨hgrows, hsound, fun a progress heq => by cases heq⟩

/-- A dialogue that knows nothing of the progress keeps the database sound. -/
lemma consult {dialogue : Dialogue (Except Stop α)} {good : α → Database → Prop}
    (hsound : before.db.Sound)
    (hgood : ∀ log value, dialogue.Ends log (.ok value) → good value before.db) :
    Keeps (Sync.consult dialogue) before good := by
  intro log outcome hends
  rw [Sync.consult, Dialogue.ends_bind_iff] at hends
  obtain ⟨first, result, second, hfirst, hsecond, -⟩ := hends
  cases result with
  | error cause =>
    obtain ⟨rfl, rfl⟩ := Dialogue.ends_done_iff.1 hsecond
    exact ⟨.refl _, hsound, fun a progress heq => by cases heq⟩
  | ok value =>
    obtain ⟨rfl, rfl⟩ := Dialogue.ends_done_iff.1 hsecond
    refine ⟨.refl _, hsound, fun a progress heq => ?_⟩
    cases heq
    exact hgood first value hfirst

/-- Doing one thing after the other keeps the database sound if each of them does. -/
lemma each {part : α → Sync Unit} {list : List α}
    (h : ∀ a ∈ list, ∀ before, before.db.Sound → Keeps (part a) before fun _ _ => True)
    (hsound : before.db.Sound) : Keeps (Sync.each part list) before fun _ _ => True := by
  induction list generalizing before with
  | nil => exact Keeps.pure hsound trivial
  | cons a rest ih =>
    obtain ⟨ha, hrest⟩ := List.forall_mem_cons.1 h
    exact (ha before hsound).bind fun _ between _ hbetween _ => ih hrest hbetween

end Keeps

/-! ### Resolving types -/

/-- A type that a sound database stores can be stored. -/
lemma storable_of_typeAt? {db : Database} (h : db.Sound) {path : TypePath} {type : DataType}
    (htype : db.typeAt? path = some type) : type.Storable := by
  unfold Database.typeAt? at htype
  split at htype
  · next builtin hbuiltin =>
    cases htype
    unfold Builtin.ofPath? at hbuiltin
    split at hbuiltin
    · exact .builtin (List.mem_of_find?_eq_some hbuiltin)
    · cases hbuiltin
  · obtain ⟨named, hnamed, rfl⟩ := Option.map_eq_some_iff.1 htype
    exact .named (h.types.of_mem named (List.mem_of_find?_eq_some hnamed)).1

/-- Pointers to a type that can be stored can be stored. -/
lemma storable_indirect {type : DataType} (h : type.Storable) (length : Int) (depth : Nat) :
    (type.indirect length depth).Storable := by
  induction depth with
  | zero => exact h
  | succ depth ih => exact .pointer ih length

/-- A path of plain segments is joined. -/
lemma isJoinedPath_plain (segments : List String) : IsJoinedPath (segments.map .plain) :=
  List.forall_mem_map.2 fun segment _ => WideString.isJoined_plain segment

/-- Resolving an expression keeps a database sound and gives a type that can be stored. -/
lemma sound_of_resolve {db : Database} (h : db.Sound) {expr : TypeExpr} {r : Resolution}
    (hresolve : Resolution.resolve db expr = .ok r) : r.db.Sound ∧ r.type.Storable := by
  have hcreated := h.createCategory (isJoinedPath_plain expr.name.scopes)
  obtain ⟨-, created, rfl, ⟨found, hfound, rfl⟩ | ⟨added, hadded, hnone, rfl⟩⟩ :=
    Declared.resolve_cases hresolve
  · exact ⟨hcreated, storable_indirect (storable_of_typeAt? hcreated hfound) _ _⟩
  · have hpath : added.path = Resolution.pathOf expr := hadded ▸ Declared.path_placeholder _ _
    have hstorable : added.Storable := by
      constructor
      · rw [hpath]
        exact isJoinedPath_plain expr.name.scopes
      · rw [hpath]
        exact WideString.isJoined_plain _
    exact ⟨hcreated.addType hstorable (hpath ▸ hnone), storable_indirect (.named hstorable) _ _⟩

/-- Resolving an expression keeps the database sound. -/
lemma keeps_resolve (expr : TypeExpr) (hsound : before.db.Sound) :
    Keeps (resolve expr) before fun type _ => type.Storable := by
  have happly := resolve_apply expr before
  cases hresolve : Resolution.resolve before.db expr with
  | error error =>
    rw [hresolve] at happly
    exact .of_stopped happly hsound
  | ok r =>
    rw [hresolve] at happly
    obtain ⟨hdb, htype⟩ := sound_of_resolve hsound hresolve
    exact .of_done happly (Declared.grows_of_resolve hresolve).1 hdb htype

/-- The return type is resolved. -/
lemma keeps_returnTypeOf (decl : FunctionDecl) (hsound : before.db.Sound) :
    Keeps (returnTypeOf decl) before fun found _ => ∀ type ∈ found, type.Storable := by
  unfold returnTypeOf
  split
  · exact .pure hsound (by simp)
  · next expr _ =>
    exact (keeps_resolve expr hsound).bind fun type between _ hbetween htype =>
      .pure hbetween (by simpa using htype)

/-- The type of the implicit `this` is resolved. -/
lemma keeps_thisParams (cls : ClassDecl) (decl : FunctionDecl) (hsound : before.db.Sound) :
    Keeps (thisParams cls decl) before fun params _ => ∀ param ∈ params, param.Storable := by
  unfold thisParams
  split
  · refine (keeps_resolve _ hsound).bind fun type between _ hbetween htype => .pure hbetween ?_
    simpa using ⟨by simp, htype, by simp⟩
  · exact .pure hsound (by simp)

/-- The types of the written parameters are resolved one after the other. -/
lemma keeps_declaredParams (decls : List ParamDecl) (hsound : before.db.Sound) :
    Keeps (declaredParams decls) before fun params _ => ∀ param ∈ params, param.Storable := by
  induction decls generalizing before with
  | nil => exact .pure hsound (by simp)
  | cons decl rest ih =>
    refine (keeps_resolve decl.type hsound).bind fun type between _ hbetween htype => ?_
    refine (ih hbetween).bind fun others last _ hlast hothers => .pure hlast ?_
    have hname : ∀ name ∈ (decl.name : Option WideString), name.IsJoined := by
      cases decl.name <;> simp
    exact List.forall_mem_cons.2 ⟨⟨hname, htype, by simp⟩, hothers⟩

/-! ### Locating functions -/

/-- Creating the namespaces of a path keeps a database sound, and then they are there. -/
lemma sound_namespacesBelow (path : List WideString) {db : Database} (h : db.Sound)
    {parent : List WideString} (hparent : parent = [] ∨ (db.namespaceAt? parent).isSome)
    (hjoined : IsJoinedPath (parent ++ path)) :
    (namespacesBelow db parent path).Sound ∧
      (parent ++ path = [] ∨
        ((namespacesBelow db parent path).namespaceAt? (parent ++ path)).isSome) := by
  induction path generalizing db parent with
  | nil =>
    rw [List.append_nil]
    exact ⟨h, hparent⟩
  | cons segment rest ih =>
    have hsplit : parent ++ segment :: rest = parent ++ [segment] ++ rest := by simp
    rw [hsplit] at hjoined ⊢
    rw [namespacesBelow]
    split
    · next found hfound => exact ih h (.inr (by rw [hfound]; rfl)) hjoined
    · next hnone =>
      have hadded : (db.addNamespace ⟨parent ++ [segment], rest.isEmpty⟩).Sound :=
        h.addNamespace (fun s hs => hjoined s (List.mem_append_left _ hs)) (by simp) hnone
          (by simpa using hparent)
      refine ih hadded (.inr ?_) hjoined
      exact Database.isSome_namespaceAt?_iff.2 ⟨_, List.mem_append_right _ List.mem_cons_self, rfl⟩

/-- Locating a function keeps the database sound. -/
lemma keeps_locate (cls : ClassDecl) (decl : FunctionDecl) (address : Int)
    (hsound : before.db.Sound) :
    Keeps (locate cls decl address) before fun found db => found.1.Storable ∧
      ∀ path ∈ found.1.namespacePath, (db.namespaceAt? path).isSome := by
  have happly := locate_apply cls decl address before
  cases hfound : before.db.functionAt? address with
  | some function =>
    rw [hfound] at happly
    exact .of_done happly (.refl _) hsound (hsound.functions function (Keyed.mem_of_get? hfound).1)
  | none =>
    rw [hfound, hsound.isLocked] at happly
    have hcreated : (before.db.putFunction { address, name := decl.name }).Sound :=
      hsound.putFunction ⟨by simp, by simp, by simp, by simp, by simp⟩ (by simp)
    obtain ⟨hbelow, hknown⟩ := sound_namespacesBelow (namespaceOf cls) hcreated (.inl rfl)
      (isJoinedPath_plain cls.name.segments)
    have hscope : ∀ path ∈ (newFunction cls decl address).namespacePath,
        ((namespacesBelow (before.db.putFunction { address, name := decl.name }) []
          (namespaceOf cls)).namespaceAt? path).isSome := by
      intro path hpath
      cases hpath
      exact hknown.resolve_left (namespaceOf_ne_nil cls)
    have hstorable : (newFunction cls decl address).Storable := by
      refine ⟨by simp [newFunction], fun path hpath => ?_, by simp [newFunction],
        by simp [newFunction], by simp [newFunction]⟩
      cases hpath
      exact isJoinedPath_plain cls.name.segments
    exact .of_done happly (grows_withNewFunction _ _ _ _) (hbelow.putFunction hstorable hscope)
      ⟨hstorable, hscope⟩

/-! ### Writing signatures -/

/-- The implicit parameter of a returned structure has the type of the return value. -/
lemma storable_retParams {returnType : Option DataType} (h : ∀ type ∈ returnType, type.Storable) :
    ∀ param ∈ retParams returnType, param.Storable := by
  unfold retParams
  split
  · next type =>
    split
    · simpa using ⟨by simp, h type rfl, by simp⟩
    · simp
  · simp

/-- Reconciling a signature keeps the database sound. -/
lemma keeps_reconcile {function : FunctionRecord} (hfunction : function.Storable)
    {params : List Parameter} (hparams : ∀ param ∈ params, param.Storable)
    {returnType : Option DataType} (hreturn : ∀ type ∈ returnType, type.Storable)
    {location : String} {isDestructor : Bool} (hsound : before.db.Sound) :
    Keeps (consult (Reconciliation.reconcile function params returnType location isDestructor))
      before fun agreed _ => (∀ param ∈ agreed.params, param.Storable) ∧
        ∀ type ∈ agreed.returnType, type.Storable :=
  .consult hsound fun _ _ hends => Reconciliation.forall_of_ends hfunction.params hparams hreturn hends

/-- Placed parameters can be stored. -/
lemma storable_of_placeFrom {convention : Option CallingConvention} {location : String}
    {pairs : List (Parameter × Parameter)} (h : ∀ pair ∈ pairs, pair.1.Storable) {index : Nat}
    {offset : Int} {warnings : List Warning} {result : List Parameter}
    (hplace : Allocation.placeFrom convention location index offset pairs =
      (warnings, .ok result)) : ∀ param ∈ result, param.Storable := by
  induction pairs generalizing index offset warnings result with
  | nil =>
    cases hplace
    simp
  | cons pair rest ih =>
    obtain ⟨hparam, hrest⟩ := List.forall_mem_cons.1 h
    obtain ⟨storage, others, raised, next, rfl, hothers, hstorage⟩ :=
      Allocation.placeFrom_cons hplace
    refine List.forall_mem_cons.2 ⟨⟨hparam.name, hparam.type, ?_⟩, ih hrest hothers⟩
    obtain ⟨name, -, rfl, -⟩ | ⟨rfl, -⟩ := hstorage
    · simpa using Storage.Storable.register (WideString.isJoined_plain _)
    · simpa using Storage.Storable.stack _ _

/-- Warnings do not touch the database. -/
lemma keeps_warn (warnings : List Warning) (hsound : before.db.Sound) :
    Keeps (warn warnings) before fun _ _ => True :=
  .of_done rfl (.refl _) hsound trivial

/-- Placing parameters keeps the database sound. -/
lemma keeps_placed (convention : Option CallingConvention) {params : List Parameter}
    (h : ∀ param ∈ params, param.Storable) (location : String) (hsound : before.db.Sound) :
    Keeps (placed convention params location) before fun found _ =>
      ∀ param ∈ found.1, param.Storable := by
  unfold placed
  split
  · refine (keeps_warn _ hsound).bind fun _ between _ hbetween _ => ?_
    split
    · next result hresult =>
      refine .pure hbetween (storable_of_placeFrom (fun pair hmem => ?_) (Prod.ext rfl hresult))
      exact h pair.1 (List.of_mem_zip hmem).1
    · exact .of_stopped rfl hbetween
  · exact .pure hsound h

/-- Writing a function whose namespace is there keeps the database sound. -/
lemma keeps_write (function : FunctionRecord) {result : FunctionRecord} (isNew : Bool)
    (location : String) (hsound : before.db.Sound) (hstorable : result.Storable)
    (hscope : ∀ path ∈ result.namespacePath, (before.db.namespaceAt? path).isSome) :
    Keeps (do
      setDatabase ((← database).putFunction result)
      note isNew function result location : Sync Unit) before fun _ _ => True := by
  refine .of_done (write_apply function result isNew location before) ?_ ?_ trivial
  · rw [db_noted]
    exact before.db.grows_putFunction result
  · rw [db_noted]
    exact hsound.putFunction hstorable hscope

/-! ### Whole runs -/

/-- Finding the address keeps the database sound. -/
lemma keeps_addressOf (offset : Int) (hsound : before.db.Sound) :
    Keeps (addressOf offset) before fun _ _ => True := by
  have hdatabase : database before = .done (.done before.db before) := rfl
  cases himage : before.db.imageBase with
  | none =>
    have happly : addressOf offset before = .done (.stopped (.crash .wrongKind) before) := by
      rw [addressOf, bind_of_done hdatabase, himage]
      rfl
    exact .of_stopped happly hsound
  | some imageBase =>
    have happly : addressOf offset before = .done (.done (imageBase + offset) before) := by
      rw [addressOf, bind_of_done hdatabase, himage]
      rfl
    exact .of_done happly (.refl _) hsound trivial

/-- Synchronizing a declaration with an offset keeps the database sound, however it ends. -/
theorem keeps_addressed (platform : Platform) (cls : ClassDecl) (decl : FunctionDecl)
    (offset : Int) (hsound : before.db.Sound) :
    Keeps (addressed platform cls decl offset) before fun _ _ => True := by
  unfold addressed
  refine (keeps_addressOf offset hsound).bind fun address _ _ hsound₁ _ => ?_
  refine (keeps_locate cls decl address hsound₁).bind fun found located _ hlocated hfound => ?_
  obtain ⟨hstorable, hscope⟩ := hfound
  refine (keeps_returnTypeOf decl hlocated).bind fun returnType _ hgrows₁ hsound₂ hreturn => ?_
  refine (keeps_thisParams cls decl hsound₂).bind fun this _ hgrows₂ hsound₃ hthis => ?_
  refine (keeps_declaredParams decl.params hsound₃).bind
    fun declared _ hgrows₃ hsound₄ hdeclared => ?_
  have hparams : ∀ param ∈ this ++ retParams returnType ++ declared, param.Storable := by
    intro param hmem
    rcases List.mem_append.1 hmem with hmem | hmem
    · rcases List.mem_append.1 hmem with hmem | hmem
      · exact hthis param hmem
      · exact storable_retParams hreturn param hmem
    · exact hdeclared param hmem
  refine (keeps_reconcile hstorable hparams hreturn hsound₄).bind
    fun agreed _ hgrows₄ hsound₅ hagreed => ?_
  refine (keeps_placed _ hagreed.1 _ hsound₅).bind fun result _ hgrows₅ hsound₆ hresult => ?_
  have hgrows := hgrows₁.trans (hgrows₂.trans (hgrows₃.trans (hgrows₄.trans hgrows₅)))
  refine keeps_write found.1 found.2 _ hsound₆ ?_ fun path hpath =>
    hgrows.isSome_namespaceAt? (hscope path hpath)
  refine hstorable.withSignature (fun name hname => ?_) hagreed.2 hresult _ _
  obtain ⟨convention, -, rfl⟩ := Option.map_eq_some_iff.1 hname
  exact WideString.isJoined_plain _

/-- Synchronizing a declaration keeps the database sound. -/
lemma keeps_declaration (platform : Platform) (cls : ClassDecl) (decl : FunctionDecl)
    (hsound : before.db.Sound) :
    Keeps (declaration platform cls decl) before fun _ _ => True := by
  unfold declaration
  split
  · exact .pure hsound trivial
  · exact keeps_addressed platform cls decl _ hsound

/-- Synchronizing a binding file keeps the database sound. -/
lemma keeps_source (platform : Platform) (file : Source) (hsound : before.db.Sound) :
    Keeps (source platform file) before fun _ _ => True := by
  unfold source
  split
  · exact .of_stopped rfl hsound
  · split
    · exact .of_stopped rfl hsound
    · exact .each (fun cls _ _ hcls => .each (fun decl _ _ hdecl =>
        keeps_declaration platform cls decl hdecl) hcls) hsound

/-- However a run ends, and whoever answers its conflicts, a sound database grows into a sound
one. -/
theorem sound_of_synchronize {platform : Platform} {files : List Source} {db : Database}
    (hsound : db.Sound) {log : Transcript} {outcome : Outcome Unit}
    (h : (synchronize platform files db).Ends log outcome) :
    db.Grows outcome.progress.db ∧ outcome.progress.db.Sound := by
  have hkeeps : Keeps (sources platform files) { db } fun _ _ => True :=
    .each (fun file _ _ hfile => keeps_source platform file hfile) hsound
  obtain ⟨hgrows, hresult, -⟩ := hkeeps log outcome h
  exact ⟨hgrows, hresult⟩

end Sync

end BindingSync
