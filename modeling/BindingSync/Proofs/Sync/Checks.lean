import Mathlib.Data.List.Basic
import Mathlib.Tactic.Common
import BindingSync.Proofs.Sync.CutShort

/-!
# Checks that never fail

The operations of a database check what they are asked for: a type or a namespace is created only
where there is none, and a parameter is looked up only by an index of its list.  A run is written
without these checks, because it never asks for anything else.  This file writes it once more, with
all of them (`Checked.synchronize`), and shows that both are the same (`Checked.synchronize_eq`).

What a failed check would do to the run is left open.  It could end it in a way in which no run
ends, and still the two are the same, so that no check ever fails.

The reasons are found piece by piece.  Resolving looks for a type before it creates one, and
ensuring a namespace does the same (`Checked.resolveIn_eq`, `Checked.namespacesBelow_eq`); the
parameter lists are compared only where the declared one is not the shorter one
(`Checked.paramsConflict_eq`); and moving structures to the end keeps the number of parameters
(`Checked.place_eq`).
-/

namespace BindingSync.Checked

open BindingSync.Binding
open BindingSync.Text
open BindingSync.Sync (database setDatabase warn stop consult addressOf namespaceOf retParams note
  each Source)

/-- How a run would end at a check that fails. -/
structure Faults where
  duplicate : DuplicateError → Stop
  outOfRange : Stop

variable (faults : Faults)

/-! ### A run with all checks -/

/-- The namespaces of a path below one that is there, each of them created with a check. -/
def namespacesBelow (db : Database) (parent : List WideString) :
    List WideString → Except DuplicateError Database
  | [] => .ok db
  | segment :: rest =>
    let path := parent ++ [segment]
    match db.namespaceAt? path with
    | some _ => namespacesBelow db path rest
    | none =>
      match db.createNamespace ⟨path, rest.isEmpty⟩ with
      | .error error => .error error
      | .ok db => namespacesBelow db path rest

/-- Looks up or creates the namespaces of a path. -/
def ensureNamespace (path : List WideString) : Sync Unit := do
  if path.isEmpty then stop (.failed .emptyClassName)
  else
    match namespacesBelow (← database) [] path with
    | .error error => stop (faults.duplicate error)
    | .ok db => setDatabase db

/-- The function at an address, and whether it had to be created for the declaration. -/
def locate (cls : ClassDecl) (decl : FunctionDecl) (address : Int) :
    Sync (FunctionRecord × Bool) := do
  let db ← database
  match db.functionAt? address with
  | some function => return (function, false)
  | none =>
    match db.createFunction? address decl.name with
    | none => stop (.failed (.cannotCreate address (cls.qualify decl)))
    | some db => do
      setDatabase db
      ensureNamespace faults (namespaceOf cls)
      let function : FunctionRecord :=
        { address, name := decl.name, namespacePath := some (namespaceOf cls) }
      setDatabase ((← database).putFunction function)
      return (function, true)

/-- Resolves an expression; a placeholder is created with a check. -/
def resolveIn (db : Database) (type : TypeExpr) : Except Stop Resolution :=
  if type.name.base = "" then .error (.failed (.namelessType type))
  else
    let db := db.createCategory (Resolution.pathOf type).category
    let finish (found : DataType) (db : Database) (warnings : List Warning) : Resolution :=
      ⟨found.indirect db.pointerSize (Resolution.depth type), db, warnings⟩
    match db.typeAt? (Resolution.pathOf type) with
    | some found => .ok (finish found db [])
    | none =>
      let added := Resolution.placeholder db type
      match db.createType added with
      | .error error => .error (faults.duplicate error)
      | .ok db => .ok (finish (.named added) db [.newType added.path added.kind])

/-- Resolves a type expression in the database. -/
def resolve (type : TypeExpr) : Sync DataType := do
  match resolveIn faults (← database) type with
  | .error cause => stop cause
  | .ok resolution => do
    setDatabase resolution.db
    warn resolution.warnings
    return resolution.type

/-- The declared return type, resolved; destructors have none. -/
def returnTypeOf (decl : FunctionDecl) : Sync (Option DataType) :=
  match decl.returnType with
  | none => return none
  | some type => return some (← resolve faults type)

/-- The implicit `this` parameter, unless the function is static. -/
def thisParams (cls : ClassDecl) (decl : FunctionDecl) : Sync (List Parameter) :=
  if decl.hasThis then do
    let type ← resolve faults (.pointerTo cls.name)
    return [{ name := some "this", type, source := .analysis }]
  else return []

/-- The declared parameters, resolved one after the other. -/
def declaredParams : List ParamDecl → Sync (List Parameter)
  | [] => return []
  | param :: rest => do
    let type ← resolve faults param.type
    return { name := param.name, type, source := .analysis } :: (← declaredParams rest)

/-- An existing parameter list conflicts with the incoming one; the parameters are looked up by
their indices. -/
def paramsConflict (existing incoming : List Parameter) : Except Stop Bool :=
  if incoming.length < existing.length then .ok true
  else (List.range existing.length).anyM fun index =>
    match existing[index]? with
    | none => .error faults.outOfRange
    | some param =>
      if param.source = .userDefined then
        match incoming[index]? with
        | none => .error faults.outOfRange
        | some declared => .ok (param.type != declared.type ||
            Reconciliation.namesDiffer param.name declared.name)
      else .ok false

/-- The conflict about the parameters of a function, if there is one. -/
def signatureConflict? (function : FunctionRecord) (incoming : List Parameter)
    (location : String) (isDestructor : Bool) : Except Stop (Option Conflict) :=
  if isDestructor then .ok none
  else (paramsConflict faults function.params incoming).map fun conflicts =>
    if conflicts then
      some { location, kind := .signature, incoming := Parameter.renderList incoming,
             existing := Parameter.renderList function.params }
    else none

/-- Decides the signature of a function, once it is known whether it conflicts. -/
def decided (function : FunctionRecord) (params : List Parameter) (returnType : Option DataType)
    (location : String) (signature : Option Conflict) : Dialogue (Except Stop Reconciliation) :=
  (Reconciliation.keeps signature).bind fun
    | .error stop => .done (.error stop)
    | .ok keepsParams =>
      let result := Reconciliation.returnConflict? function returnType location
      (Reconciliation.keeps result).bind fun
        | .error stop => .done (.error stop)
        | .ok keepsReturn => .done <| .ok {
            params := if keepsParams then function.params else params
            returnType := if keepsReturn then none else returnType
            conflicts := signature.toList ++ result.toList }

/-- Decides the signature of a function. -/
def reconcile (function : FunctionRecord) (params : List Parameter)
    (returnType : Option DataType) (location : String) (isDestructor : Bool) :
    Dialogue (Except Stop Reconciliation) :=
  match signatureConflict? faults function params location isDestructor with
  | .error cause => .done (.error cause)
  | .ok signature => decided function params returnType location signature

/-- Places the parameters from an index and a stack offset on.  The parameter that advances the
offset is looked up by the index in the reordered list. -/
def placeFrom (convention : Option CallingConvention) (location : String)
    (reordered : List Parameter) (index : Nat) (offset : Int) :
    List Parameter → List Warning × Except Stop (List Parameter)
  | [] => ([], .ok [])
  | param :: rest =>
    match Allocation.register? convention location index param.type with
    | .error error => ([], .error (.failed error))
    | .ok (some name) =>
      let placed := { param with storage := some (.register name), source := .analysis }
      let (warnings, result) := placeFrom convention location reordered (index + 1) offset rest
      (warnings, result.map (placed :: ·))
    | .ok none =>
      let storage := Storage.stack offset param.type.length
      let placed := { param with storage := some storage, source := .analysis }
      let warning := if param.type.isUndefined then
        [Warning.undefinedParameter location param.name] else []
      match reordered[index]? with
      | none => (warning, .error faults.outOfRange)
      | some advance =>
        let (warnings, result) := placeFrom convention location reordered (index + 1)
          (offset + advance.type.length) rest
        (warning ++ warnings, result.map (placed :: ·))

/-- Places the parameters where the convention asks for it. -/
def placed (convention : Option CallingConvention) (params : List Parameter)
    (location : String) : Sync (List Parameter × StorageMode) :=
  if Allocation.isNeeded convention params then
    let (warnings, result) :=
      placeFrom faults convention location (Allocation.structsLast params) 0 0 params
    do
      warn warnings
      match result with
      | .ok params => return (params, .custom)
      | .error cause => stop cause
  else return (params, .dynamic)

/-- Synchronizes a declaration that has an offset. -/
def addressed (platform : Platform) (cls : ClassDecl) (decl : FunctionDecl) (offset : Int) :
    Sync Unit := do
  let location := cls.qualify decl
  let address ← addressOf offset
  let (function, isNew) ← locate faults cls decl address
  let convention :=
    CallingConvention.select platform (cls.isLinkedOn platform.tag) decl.dispatch
  let returnType ← returnTypeOf faults decl
  let this ← thisParams faults cls decl
  let declared ← declaredParams faults decl.params
  let params := this ++ retParams returnType ++ declared
  let agreed ← consult (reconcile faults function params returnType location decl.isDestructor)
  let (params, mode) ← placed faults convention agreed.params location
  let after := function.withSignature (convention.map (·.databaseName)) agreed.returnType params
    mode .analysis
  setDatabase ((← database).putFunction after)
  note isNew function after location

/-- Synchronizes a declaration. -/
def declaration (platform : Platform) (cls : ClassDecl) (decl : FunctionDecl) : Sync Unit :=
  match decl.offsetOn? platform.tag with
  | none => return ()
  | some offset => addressed faults platform cls decl offset

/-- Synchronizes a binding file. -/
def source (platform : Platform) (file : Source) : Sync Unit :=
  match file.text with
  | .error cause => stop cause
  | .ok text =>
    match parse text with
    | .error error => stop (.failed (.unparsable file.label error))
    | .ok classes => each (fun cls => each (declaration faults platform cls) cls.functions) classes

/-- Synchronizes binding files into a database. -/
def synchronize (platform : Platform) (files : List Source) (db : Database) :
    Dialogue (Outcome Unit) :=
  each (source faults platform) files { db }

/-! ### No check fails -/

/-- A namespace is created only where there is none. -/
lemma namespacesBelow_eq (db : Database) (parent path : List WideString) :
    namespacesBelow db parent path = .ok (Sync.namespacesBelow db parent path) := by
  induction path generalizing db parent with
  | nil => rfl
  | cons segment rest ih =>
    rw [namespacesBelow, Sync.namespacesBelow]
    cases hfound : db.namespaceAt? (parent ++ [segment]) with
    | some found => exact ih db _
    | none =>
      have hcreate : db.createNamespace ⟨parent ++ [segment], rest.isEmpty⟩ =
          .ok (db.addNamespace ⟨parent ++ [segment], rest.isEmpty⟩) := by
        simp [Database.createNamespace, hfound]
      simp only [hcreate]
      exact ih _ _

/-- Ensuring a namespace never meets another one. -/
lemma ensureNamespace_eq (path : List WideString) :
    ensureNamespace faults path = Sync.ensureNamespace path := by
  simp only [ensureNamespace, namespacesBelow_eq]
  rfl

/-- A placeholder is created only where there is no type. -/
lemma resolveIn_eq (db : Database) (type : TypeExpr) :
    resolveIn faults db type = (Resolution.resolve db type).mapError .failed := by
  rw [resolveIn, Resolution.resolve]
  by_cases hname : type.name.base = ""
  · simp only [if_pos hname]
    rfl
  · simp only [if_neg hname]
    cases hfound : (db.createCategory (Resolution.pathOf type).category).typeAt?
        (Resolution.pathOf type) with
    | some found => rfl
    | none =>
      simp only [Database.createType, Declared.path_placeholder, hfound, Option.isSome_none,
        Bool.false_eq_true, if_false]
      rfl

/-- Resolving never meets another type. -/
lemma resolve_eq (type : TypeExpr) : resolve faults type = Sync.resolve type := by
  funext before
  have hdatabase : database before = .done (.done before.db before) := rfl
  rw [Sync.resolve_apply, resolve, Sync.bind_of_done hdatabase, resolveIn_eq]
  cases Resolution.resolve before.db type <;> rfl

/-- A test of the members of a list that always gives a value is a test by these values. -/
lemma anyM_eq_ok {α : Type} {test : α → Except Stop Bool} {holds : α → Bool} {list : List α}
    (h : ∀ a ∈ list, test a = .ok (holds a)) : list.anyM test = .ok (list.any holds) := by
  induction list with
  | nil => rfl
  | cons first rest ih =>
    obtain ⟨hfirst, hrest⟩ := List.forall_mem_cons.1 h
    rw [List.anyM, hfirst, List.any_cons, ih hrest]
    cases holds first <;> rfl

/-- A test of the members of a list is one of the members at its indices. -/
lemma any_range_eq {α : Type} (list : List α) (holds : α → Bool) :
    ((List.range list.length).any fun index => list[index]?.any holds) = list.any holds := by
  rw [Bool.eq_iff_iff, List.any_eq_true, List.any_eq_true]
  constructor
  · rintro ⟨index, -, hindex⟩
    obtain ⟨a, ha, hholds⟩ := Option.any_eq_true _ _ |>.1 hindex
    exact ⟨a, List.mem_of_getElem? ha, hholds⟩
  · rintro ⟨a, hmem, hholds⟩
    obtain ⟨index, hindex⟩ := List.mem_iff_getElem?.1 hmem
    refine ⟨index, List.mem_range.2 (List.getElem?_eq_some_iff.1 hindex).1, ?_⟩
    rw [hindex]
    exact hholds

/-- Parameter lists are compared only at indices that both of them have. -/
lemma paramsConflict_eq (existing incoming : List Parameter) :
    paramsConflict faults existing incoming =
      .ok (Reconciliation.paramsConflict existing incoming) := by
  rw [paramsConflict, Reconciliation.paramsConflict]
  by_cases hlength : incoming.length < existing.length
  · simp [hlength]
  · rw [if_neg hlength, decide_eq_false hlength, Bool.false_or]
    let conflicts : Parameter × Parameter → Bool :=
      fun pair => Reconciliation.paramConflicts pair.1 pair.2
    let holds : Nat → Bool := fun index => (existing.zip incoming)[index]?.any conflicts
    have hany : (List.range existing.length).any holds =
        (existing.zip incoming).any conflicts := by
      have hzip : (existing.zip incoming).length = existing.length := by
        simp [Nat.not_lt.1 hlength]
      rw [← hzip]
      exact any_range_eq _ _
    change _ = Except.ok ((existing.zip incoming).any conflicts)
    rw [← hany]
    apply anyM_eq_ok
    intro index hindex
    have hbound : index < existing.length := List.mem_range.1 hindex
    have hparam := List.getElem?_eq_getElem hbound
    have hdeclared := List.getElem?_eq_getElem (Nat.lt_of_lt_of_le hbound (Nat.not_lt.1 hlength))
    have hpair : (existing.zip incoming)[index]? = some (existing[index], incoming[index]) :=
      List.getElem?_zip_eq_some.2 ⟨hparam, hdeclared⟩
    simp only [holds, conflicts, hpair, hparam, hdeclared, Reconciliation.paramConflicts]
    by_cases hsource : existing[index].source = .userDefined <;> simp [hsource]

/-- Whether a signature conflicts is found out without a failure. -/
lemma reconcile_eq (function : FunctionRecord) (params : List Parameter)
    (returnType : Option DataType) (location : String) (isDestructor : Bool) :
    reconcile faults function params returnType location isDestructor =
      Reconciliation.reconcile function params returnType location isDestructor := by
  have hsignature : signatureConflict? faults function params location isDestructor =
      .ok (Reconciliation.signatureConflict? function params location isDestructor) := by
    rw [signatureConflict?, paramsConflict_eq, Reconciliation.signatureConflict?]
    cases isDestructor <;> rfl
  rw [reconcile, hsignature]
  rfl

/-- Parameters are placed without a failure as long as the reordered list is not the shorter one. -/
lemma placeFrom_eq (convention : Option CallingConvention) (location : String)
    (reordered : List Parameter) (index : Nat) (offset : Int) (params : List Parameter)
    (hlength : index + params.length ≤ reordered.length) :
    placeFrom faults convention location reordered index offset params =
      ((Allocation.placeFrom convention location index offset
          (params.zip (reordered.drop index))).1,
        (Allocation.placeFrom convention location index offset
          (params.zip (reordered.drop index))).2.mapError .failed) := by
  induction params generalizing index offset with
  | nil => rfl
  | cons param rest ih =>
    rw [List.length_cons] at hlength
    have hbound : index < reordered.length := by omega
    rw [List.drop_eq_getElem_cons hbound, List.zip_cons_cons, placeFrom, Allocation.placeFrom]
    cases Allocation.register? convention location index param.type with
    | error error => rfl
    | ok register =>
      cases register with
      | some name =>
        simp only [ih (index + 1) offset (by omega)]
        cases (Allocation.placeFrom convention location (index + 1) offset
          (rest.zip (reordered.drop (index + 1)))).2 <;> rfl
      | none =>
        simp only [List.getElem?_eq_getElem hbound,
          ih (index + 1) (offset + reordered[index].type.length) (by omega)]
        cases (Allocation.placeFrom convention location (index + 1)
          (offset + reordered[index].type.length)
          (rest.zip (reordered.drop (index + 1)))).2 <;> rfl

/-- Placing parameters never looks behind the end of the reordered list. -/
lemma placed_eq (convention : Option CallingConvention) (params : List Parameter)
    (location : String) :
    placed faults convention params location = Sync.placed convention params location := by
  have hlength : 0 + params.length ≤ (Allocation.structsLast params).length := by
    rw [Allocation.length_structsLast, Nat.zero_add]
  rw [placed, Sync.placed]
  simp only [placeFrom_eq faults convention location _ 0 0 params hlength, Allocation.place,
    List.drop_zero]
  cases (Allocation.placeFrom convention location 0 0
    (params.zip (Allocation.structsLast params))).2 <;> rfl

/-- Locating a function never meets another namespace. -/
lemma locate_eq (cls : ClassDecl) (decl : FunctionDecl) (address : Int) :
    locate faults cls decl address = Sync.locate cls decl address := by
  simp only [locate, ensureNamespace_eq]
  rfl

/-- The signature of a declaration is resolved without a failure. -/
lemma declaredParams_eq (decls : List ParamDecl) :
    declaredParams faults decls = Sync.declaredParams decls := by
  induction decls with
  | nil => rfl
  | cons decl rest ih => rw [declaredParams, Sync.declaredParams, ih, resolve_eq]

/-- In a step no check fails. -/
lemma addressed_eq (platform : Platform) (cls : ClassDecl) (decl : FunctionDecl) (offset : Int) :
    addressed faults platform cls decl offset = Sync.addressed platform cls decl offset := by
  have hreturn : returnTypeOf faults decl = Sync.returnTypeOf decl := by
    simp only [returnTypeOf, resolve_eq]
    rfl
  have hthis : thisParams faults cls decl = Sync.thisParams cls decl := by
    simp only [thisParams, resolve_eq]
    rfl
  simp only [addressed, locate_eq, hreturn, hthis, declaredParams_eq, reconcile_eq, placed_eq]
  rfl

/-- In a run no check fails. -/
theorem synchronize_eq (platform : Platform) (files : List Source) (db : Database) :
    synchronize faults platform files db = BindingSync.synchronize platform files db := by
  have hdeclaration : declaration faults platform = Sync.declaration platform := by
    funext cls decl
    simp only [declaration, addressed_eq]
    rfl
  have hsource : source faults platform = Sync.source platform := by
    funext file
    simp only [source, hdeclaration]
    rfl
  rw [synchronize, hsource]
  rfl

end BindingSync.Checked
