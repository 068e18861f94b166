import BindingSync.Proofs.Database.Growth
import BindingSync.Proofs.Sync.Transcript

/-!
# Declared signatures as a database shows them

A declaration names its types by expressions; what they are is for the database to say.
`Declared.type?`, `Declared.returnType?` and `Declared.params?` read a declaration against a
database without changing it: an expression is the type that is stored at its place, behind
one pointer for every `*` and every `&`.

Resolving changes the database, because it creates what is missing.  After it, reading gives
what resolving gave (`Sync.Resolving`), and as databases only grow, reading gives the same ever
after.  Where nothing is missing (`Declared.Known`), resolving is nothing but reading.
-/

namespace BindingSync

open BindingSync.Binding
open BindingSync.Text
open BindingSync.Dialogue (Transcript)

namespace Declared

/-! ### Reading types -/

/-- The type that a database stores at the place of an expression, behind the pointers that the
expression asks for. -/
def type? (db : Database) (type : TypeExpr) : Option DataType :=
  (db.typeAt? (Resolution.pathOf type)).map
    (·.indirect db.pointerSize (Resolution.depth type))

/-- Nothing has to be created for an expression: it has a name, and its categories and its type
are there. -/
def KnownType (db : Database) (type : TypeExpr) : Prop :=
  type.name.base ≠ "" ∧ db.KnowsCategory (Resolution.pathOf type).category ∧
    (type? db type).isSome

/-- What an expression reads as stays while the database grows. -/
lemma type?_of_grows {db db' : Database} (h : db.Grows db') {expr : TypeExpr} {type : DataType}
    (hread : type? db expr = some type) : type? db' expr = some type := by
  obtain ⟨found, hfound, rfl⟩ := Option.map_eq_some_iff.1 hread
  rw [type?, h.typeAt? hfound, h.pointerSize]
  rfl

/-- What is known stays known while the database grows. -/
lemma KnownType.of_grows {db db' : Database} {expr : TypeExpr} (hknown : KnownType db expr)
    (h : db.Grows db') : KnownType db' expr := by
  obtain ⟨hname, hcategory, hsome⟩ := hknown
  obtain ⟨type, htype⟩ := Option.isSome_iff_exists.1 hsome
  exact ⟨hname, h.knowsCategory hcategory, by rw [type?_of_grows h htype]; rfl⟩

/-- Resolving a known expression reads it and changes nothing. -/
lemma resolve_of_known {db : Database} {expr : TypeExpr} {type : DataType}
    (hknown : KnownType db expr) (hread : type? db expr = some type) :
    Resolution.resolve db expr = .ok ⟨type, db, []⟩ := by
  obtain ⟨hname, hcategory, -⟩ := hknown
  obtain ⟨found, hfound, rfl⟩ := Option.map_eq_some_iff.1 hread
  simp only [Resolution.resolve, if_neg hname, Database.createCategory_eq_self hcategory, hfound]

/-- Resolving creates the category; then it finds the type, or adds a placeholder for it. -/
lemma resolve_cases {db : Database} {expr : TypeExpr} {r : Resolution}
    (h : Resolution.resolve db expr = .ok r) :
    expr.name.base ≠ "" ∧ ∃ created, created = db.createCategory (Resolution.pathOf expr).category ∧
      ((∃ found, created.typeAt? (Resolution.pathOf expr) = some found ∧
          r = ⟨found.indirect db.pointerSize (Resolution.depth expr), created, []⟩) ∨
        (∃ added, added = Resolution.placeholder created expr ∧
          created.typeAt? (Resolution.pathOf expr) = none ∧
          r = ⟨(DataType.named added).indirect db.pointerSize (Resolution.depth expr),
            created.addType added, [.newType added.path added.kind]⟩)) := by
  simp only [Resolution.resolve] at h
  split at h
  · cases h
  · next hname =>
    refine ⟨hname, _, rfl, ?_⟩
    split at h
    · next found hfound =>
      cases h
      exact .inl ⟨found, hfound, rfl⟩
    · next hnone =>
      cases h
      exact .inr ⟨_, rfl, hnone, rfl⟩

/-- A placeholder stands at the place of its expression. -/
@[simp] lemma path_placeholder (db : Database) (expr : TypeExpr) :
    (Resolution.placeholder db expr).path = Resolution.pathOf expr := by
  rw [Resolution.placeholder]
  split <;> rfl

/-- Resolving lets the database grow, and not by functions or namespaces. -/
lemma grows_of_resolve {db : Database} {expr : TypeExpr} {r : Resolution}
    (h : Resolution.resolve db expr = .ok r) :
    db.Grows r.db ∧ r.db.functions = db.functions ∧ r.db.namespaces = db.namespaces := by
  have hcategory := db.grows_createCategory (Resolution.pathOf expr).category
  obtain ⟨-, created, rfl, ⟨found, -, rfl⟩ | ⟨added, -, -, rfl⟩⟩ := resolve_cases h
  · exact ⟨hcategory, rfl, rfl⟩
  · exact ⟨hcategory.trans (Database.grows_addType _ _), rfl, rfl⟩

/-- After resolving an expression it is known, and it reads as what it was resolved to. -/
lemma known_of_resolve {db : Database} {expr : TypeExpr} {r : Resolution}
    (h : Resolution.resolve db expr = .ok r) :
    KnownType r.db expr ∧ type? r.db expr = some r.type := by
  have hcategory := db.knowsCategory_createCategory (Resolution.pathOf expr).category
  obtain ⟨hname, created, rfl, ⟨found, hfound, rfl⟩ | ⟨added, hadded, hnone, rfl⟩⟩ :=
    resolve_cases h
  · have hread : type? (db.createCategory (Resolution.pathOf expr).category) expr =
        some (found.indirect db.pointerSize (Resolution.depth expr)) := by
      rw [type?, hfound]
      rfl
    exact ⟨⟨hname, hcategory, by rw [hread]; rfl⟩, hread⟩
  · have hpath : added.path = Resolution.pathOf expr := hadded ▸ path_placeholder _ _
    have hstored := Database.typeAt?_addType (hpath ▸ hnone)
    have hread : type? ((db.createCategory (Resolution.pathOf expr).category).addType added) expr =
        some ((DataType.named added).indirect db.pointerSize (Resolution.depth expr)) := by
      rw [type?, ← hpath, hstored]
      rfl
    exact ⟨⟨hname, (Database.grows_addType _ added).knowsCategory hcategory, by rw [hread]; rfl⟩,
      hread⟩

/-- The warnings of resolving are about placeholders. -/
lemma warnings_of_resolve {db : Database} {expr : TypeExpr} {r : Resolution}
    (h : Resolution.resolve db expr = .ok r) :
    ∀ warning ∈ r.warnings, ∃ path kind, warning = .newType path kind := by
  obtain ⟨-, created, -, ⟨found, -, rfl⟩ | ⟨added, -, -, rfl⟩⟩ := resolve_cases h <;> simp

/-! ### Reading signatures -/

/-- The return type of a declaration, if it has one, as a database shows it. -/
def returnType? (db : Database) (decl : FunctionDecl) : Option (Option DataType) :=
  match decl.returnType with
  | none => some none
  | some type => (type? db type).map some

/-- The implicit `this` parameter, unless the function is static. -/
def thisParams? (db : Database) (cls : ClassDecl) (decl : FunctionDecl) :
    Option (List Parameter) :=
  if decl.hasThis then
    (type? db (.pointerTo cls.name)).map fun type =>
      [{ name := some "this", type, source := .analysis }]
  else some []

/-- The parameters that are written in a declaration. -/
def writtenParams? (db : Database) (params : List ParamDecl) : Option (List Parameter) :=
  params.mapM fun param =>
    (type? db param.type).map fun type => { name := param.name, type, source := .analysis }

/-- The whole parameter list of a declaration: `this` unless the function is static, `ret` for
a structure that is returned by value, and the written parameters. -/
def params? (db : Database) (cls : ClassDecl) (decl : FunctionDecl) : Option (List Parameter) := do
  let returnType ← returnType? db decl
  let this ← thisParams? db cls decl
  let written ← writtenParams? db decl.params
  return this ++ Sync.retParams returnType ++ written

/-- The type expressions that a declaration needs, in the order in which they are resolved. -/
def mentioned (cls : ClassDecl) (decl : FunctionDecl) : List TypeExpr :=
  decl.returnType.toList ++ (if decl.hasThis then [.pointerTo cls.name] else []) ++
    decl.params.map ParamDecl.type

/-- Nothing has to be created for a declaration. -/
def Known (db : Database) (cls : ClassDecl) (decl : FunctionDecl) : Prop :=
  ∀ type ∈ mentioned cls decl, KnownType db type

/-- What is known of a declaration stays known while the database grows. -/
lemma Known.of_grows {db db' : Database} {cls : ClassDecl} {decl : FunctionDecl}
    (hknown : Known db cls decl) (h : db.Grows db') : Known db' cls decl :=
  fun type hmem => (hknown type hmem).of_grows h

/-- What a return type reads as stays while the database grows. -/
lemma returnType?_of_grows {db db' : Database} (h : db.Grows db') {decl : FunctionDecl}
    {type : Option DataType} (hread : returnType? db decl = some type) :
    returnType? db' decl = some type := by
  unfold returnType? at hread ⊢
  split
  · next hnone => rwa [hnone] at hread
  · next expr hsome =>
    rw [hsome] at hread
    obtain ⟨found, hfound, rfl⟩ := Option.map_eq_some_iff.1 hread
    rw [type?_of_grows h hfound]
    rfl

/-- What the implicit `this` reads as stays while the database grows. -/
lemma thisParams?_of_grows {db db' : Database} (h : db.Grows db') {cls : ClassDecl}
    {decl : FunctionDecl} {params : List Parameter}
    (hread : thisParams? db cls decl = some params) :
    thisParams? db' cls decl = some params := by
  unfold thisParams? at hread ⊢
  split
  · next hthis =>
    rw [if_pos hthis] at hread
    obtain ⟨found, hfound, rfl⟩ := Option.map_eq_some_iff.1 hread
    rw [type?_of_grows h hfound]
    rfl
  · next hthis => rwa [if_neg hthis] at hread

/-- The written parameters are read one after the other. -/
lemma writtenParams?_cons {db : Database} {param : ParamDecl} {rest : List ParamDecl}
    {params : List Parameter} :
    writtenParams? db (param :: rest) = some params ↔
      ∃ type others, type? db param.type = some type ∧ writtenParams? db rest = some others ∧
        params = { name := param.name, type, source := .analysis } :: others := by
  simp only [writtenParams?, List.mapM_cons, Option.bind_eq_bind, Option.bind_eq_some_iff,
    Option.map_eq_some_iff, Option.pure_def, Option.some.injEq]
  constructor
  · rintro ⟨_, ⟨type, htype, rfl⟩, others, hothers, rfl⟩
    exact ⟨type, others, htype, hothers, rfl⟩
  · rintro ⟨type, others, htype, hothers, rfl⟩
    exact ⟨_, ⟨type, htype, rfl⟩, others, hothers, rfl⟩

/-- What the written parameters read as stays while the database grows. -/
lemma writtenParams?_of_grows {db db' : Database} (h : db.Grows db') {decls : List ParamDecl}
    {params : List Parameter} (hread : writtenParams? db decls = some params) :
    writtenParams? db' decls = some params := by
  induction decls generalizing params with
  | nil => exact hread
  | cons param rest ih =>
    obtain ⟨type, others, htype, hothers, rfl⟩ := writtenParams?_cons.1 hread
    exact writtenParams?_cons.2 ⟨type, others, type?_of_grows h htype, ih hothers, rfl⟩

/-- A parameter list is read in three parts. -/
lemma params?_eq_some_iff {db : Database} {cls : ClassDecl} {decl : FunctionDecl}
    {params : List Parameter} :
    params? db cls decl = some params ↔
      ∃ returnType this written, returnType? db decl = some returnType ∧
        thisParams? db cls decl = some this ∧ writtenParams? db decl.params = some written ∧
        params = this ++ Sync.retParams returnType ++ written := by
  simp only [params?, Option.bind_eq_bind, Option.bind_eq_some_iff, Option.pure_def,
    Option.some.injEq, eq_comm (b := params), exists_and_left]

/-- What a parameter list reads as stays while the database grows. -/
lemma params?_of_grows {db db' : Database} (h : db.Grows db') {cls : ClassDecl}
    {decl : FunctionDecl} {params : List Parameter} (hread : params? db cls decl = some params) :
    params? db' cls decl = some params := by
  obtain ⟨returnType, this, written, hreturn, hthis, hwritten, rfl⟩ := params?_eq_some_iff.1 hread
  exact params?_eq_some_iff.2 ⟨returnType, this, written, returnType?_of_grows h hreturn,
    thisParams?_of_grows h hthis, writtenParams?_of_grows h hwritten, rfl⟩

/-- A return type that is read from a declaration is that of an expression. -/
lemma exists_of_returnType? {db : Database} {decl : FunctionDecl} {type : DataType}
    (h : returnType? db decl = some (some type)) : ∃ expr, type? db expr = some type := by
  unfold returnType? at h
  split at h
  · cases h
  · next expr _ =>
    obtain ⟨found, hfound, heq⟩ := Option.map_eq_some_iff.1 h
    exact ⟨expr, Option.some.inj heq ▸ hfound⟩

/-- Parameters that are read from a declaration come from analysis, and their types are those of
expressions. -/
lemma of_mem_params? {db : Database} {cls : ClassDecl} {decl : FunctionDecl}
    {params : List Parameter} (h : params? db cls decl = some params) :
    ∀ param ∈ params, param.source = .analysis ∧ ∃ expr, type? db expr = some param.type := by
  obtain ⟨returnType, this, written, hreturn, hthis, hwritten, rfl⟩ := params?_eq_some_iff.1 h
  have hwritten' : ∀ param ∈ written,
      param.source = .analysis ∧ ∃ expr, type? db expr = some param.type := by
    clear h
    generalize decl.params = decls at hwritten
    induction decls generalizing written with
    | nil =>
      obtain rfl : [] = written := by simpa [writtenParams?] using hwritten
      simp
    | cons decl rest ih =>
      obtain ⟨type, others, htype, hothers, rfl⟩ := writtenParams?_cons.1 hwritten
      exact List.forall_mem_cons.2 ⟨⟨rfl, decl.type, htype⟩, ih others hothers⟩
  intro param hmem
  rcases List.mem_append.1 hmem with hmem | hmem
  · rcases List.mem_append.1 hmem with hmem | hmem
    · unfold thisParams? at hthis
      split at hthis
      · obtain ⟨type, htype, rfl⟩ := Option.map_eq_some_iff.1 hthis
        obtain rfl := List.mem_singleton.1 hmem
        exact ⟨rfl, _, htype⟩
      · cases hthis
        simp at hmem
    · unfold Sync.retParams at hmem
      split at hmem
      · split at hmem
        · obtain rfl := List.mem_singleton.1 hmem
          exact ⟨rfl, exists_of_returnType? hreturn⟩
        · simp at hmem
      · simp at hmem
  · exact hwritten' param hmem

end Declared

end BindingSync
