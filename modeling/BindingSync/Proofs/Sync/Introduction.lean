import BindingSync.Proofs.Sync.Step

/-!
# What resolving types introduces

Resolving type expressions creates their categories, and a placeholder for each type that is
not there.  `Sync.Introduces` lists the placeholders that some expressions brought about and
says that nothing else happened: a warning was raised for each of them, in the order of their
creation, and everything but the types, the categories and the warnings is as it was.

The signature of a declaration is resolved expression by expression.  A part of a run that does
this (`Sync.Resolves`) asks nothing; it introduces what all its expressions need, or it stops at
the first one without a name and has introduced what those in front of it need.
-/

namespace BindingSync

open BindingSync.Binding
open BindingSync.Text
open BindingSync.Dialogue (Transcript)

namespace Database

/-- There is a type at the place of each defined type. -/
lemma isSome_typeAt?_of_mem {db : Database} {type : NamedType} (h : type ∈ db.userTypes) :
    (db.typeAt? type.path).isSome := by
  unfold typeAt?
  split
  · rfl
  · rw [Option.isSome_map, userTypeAt?, List.find?_isSome]
    exact ⟨type, h, by simp⟩

end Database

/-- Only an expression without a name is not resolved. -/
lemma Declared.error_of_resolve {db : Database} {expr : TypeExpr} {error : SyncError}
    (h : Resolution.resolve db expr = .error error) :
    expr.name.base = "" ∧ error = .namelessType expr := by
  simp only [Resolution.resolve] at h
  split at h
  · next hname =>
    cases h
    exact ⟨hname, rfl⟩
  · split at h <;> cases h

/-- The placeholder for an expression depends on the size of integers only. -/
lemma Resolution.placeholder_congr {db db' : Database} (h : db'.integerSize = db.integerSize)
    (expr : TypeExpr) : placeholder db' expr = placeholder db expr := by
  rw [placeholder, placeholder, h]

namespace Sync

variable {α β : Type} {before after : Progress} {log : Transcript}

/-! ### Introductions -/

/-- Between two progresses the expressions were resolved, for which the placeholders were
created. -/
structure Introduces (exprs : List TypeExpr) (before after : Progress)
    (placeholders : List NamedType) : Prop where
  /-- Nothing else is different. -/
  after_eq : after = { before with
    db := { before.db with
      categories := after.db.categories
      userTypes := before.db.userTypes ++ placeholders }
    warnings := before.warnings ++ placeholders.map fun type => .newType type.path type.kind }
  /-- The new categories are those that the expressions name, with all categories around them. -/
  categories : ∀ category, after.db.categories.contains category = true ↔
    before.db.categories.contains category = true ∨
      ∃ expr ∈ exprs, category ∈ Database.beginnings [] (Resolution.pathOf expr).category
  /-- There was no type where a placeholder was created for one of the expressions. -/
  created : ∀ type ∈ placeholders, before.db.typeAt? type.path = none ∧
    ∃ expr ∈ exprs, type = Resolution.placeholder before.db expr
  distinct : (placeholders.map NamedType.path).Nodup

namespace Introduces

variable {exprs : List TypeExpr} {placeholders : List NamedType}

/-- No function was touched. -/
lemma functions (h : Introduces exprs before after placeholders) :
    after.db.functions = before.db.functions := by
  rw [h.after_eq]

/-- No namespace was created. -/
lemma namespaces (h : Introduces exprs before after placeholders) :
    after.db.namespaces = before.db.namespaces := by
  rw [h.after_eq]

/-- The placeholders stand behind all other types. -/
lemma userTypes (h : Introduces exprs before after placeholders) :
    after.db.userTypes = before.db.userTypes ++ placeholders := by
  rw [h.after_eq]

/-- No function was noted as added. -/
lemma added (h : Introduces exprs before after placeholders) : after.added = before.added := by
  rw [h.after_eq]

/-- No function was noted as updated. -/
lemma updated (h : Introduces exprs before after placeholders) :
    after.updated = before.updated := by
  rw [h.after_eq]

/-- Introducing types lets the database grow. -/
lemma grows (h : Introduces exprs before after placeholders) : before.db.Grows after.db where
  imageBase := by rw [h.after_eq]
  pointerSize := by rw [h.after_eq]
  integerSize := by rw [h.after_eq]
  isLocked := by rw [h.after_eq]
  functions address hsome := by rwa [Database.functionAt?, h.functions]
  namespaces := h.namespaces ▸ List.prefix_rfl
  categories category hcategory := (h.categories category).2 (.inl hcategory)
  userTypes := h.userTypes ▸ List.prefix_append _ _

/-- Every function is where and as it was. -/
lemma functionAt? (h : Introduces exprs before after placeholders) (address : Int) :
    after.db.functionAt? address = before.db.functionAt? address := by
  rw [Database.functionAt?, h.functions, Database.functionAt?]

/-- Resolving nothing introduces nothing. -/
lemma refl (progress : Progress) : Introduces [] progress progress [] :=
  ⟨by simp, by simp, by simp, by simp⟩

/-- Resolving some expressions and then others introduces what both do. -/
lemma trans {a b c : Progress} {first second : List TypeExpr} {early late : List NamedType}
    (hab : Introduces first a b early) (hbc : Introduces second b c late) :
    Introduces (first ++ second) a c (early ++ late) := by
  refine ⟨?_, fun category => ?_, fun type hmem => ?_, ?_⟩
  · have hc := hbc.after_eq
    have hb := hab.after_eq
    generalize b.db.categories = table at hb
    subst hb
    simpa using hc
  · rw [hbc.categories, hab.categories, or_assoc]
    simp only [List.mem_append, or_and_right, exists_or]
  · rcases List.mem_append.1 hmem with hmem | hmem
    · obtain ⟨hfree, expr, hexpr, heq⟩ := hab.created type hmem
      exact ⟨hfree, expr, List.mem_append_left _ hexpr, heq⟩
    · obtain ⟨hfree, expr, hexpr, heq⟩ := hbc.created type hmem
      refine ⟨?_, expr, List.mem_append_right _ hexpr, ?_⟩
      · by_contra hne
        obtain ⟨found, hfound⟩ := Option.ne_none_iff_exists'.1 hne
        rw [hab.grows.typeAt? hfound] at hfree
        cases hfree
      · rw [heq, Resolution.placeholder_congr hab.grows.integerSize]
  · rw [List.map_append, List.nodup_append]
    refine ⟨hab.distinct, hbc.distinct, fun path hearly other hlate heq => ?_⟩
    obtain ⟨old, hold, rfl⟩ := List.mem_map.1 hearly
    obtain ⟨new, hnew, rfl⟩ := List.mem_map.1 hlate
    have hthere : (b.db.typeAt? old.path).isSome :=
      Database.isSome_typeAt?_of_mem (hab.userTypes ▸ List.mem_append_right _ hold)
    rw [heq, (hbc.created new hnew).1] at hthere
    cases hthere

end Introduces

/-- Resolving one expression introduces at most one placeholder. -/
lemma introduces_of_resolve {expr : TypeExpr} {r : Resolution}
    (h : Resolution.resolve before.db expr = .ok r) :
    ∃ placeholders, Introduces [expr] before
      { before with db := r.db, warnings := before.warnings ++ r.warnings } placeholders := by
  have hcontains := Database.contains_createCategory before.db (Resolution.pathOf expr).category
  obtain ⟨-, created, rfl, ⟨found, -, rfl⟩ | ⟨added, hadded, hnone, rfl⟩⟩ :=
    Declared.resolve_cases h
  · refine ⟨[], ?_, fun category => ?_, by simp, by simp⟩
    · simp [Database.createCategory]
    · simp [hcontains, or_comm]
  · have hpath : added.path = Resolution.pathOf expr := hadded ▸ Declared.path_placeholder _ _
    have hknown := before.db.knowsCategory_createCategory (Resolution.pathOf expr).category
    have hsame : ((before.db.createCategory (Resolution.pathOf expr).category).addType
        added).categories =
          (before.db.createCategory (Resolution.pathOf expr).category).categories := by
      rw [Database.addType, hpath, Database.createCategory_eq_self hknown]
    refine ⟨[added], ?_, fun category => ?_, ?_, by simp⟩
    · simp [Database.addType, Database.createCategory]
    · simp [hsame, hcontains, or_comm]
    · rw [List.forall_mem_singleton]
      exact ⟨hpath ▸ hnone, expr, List.mem_cons_self,
        hadded.trans (Resolution.placeholder_congr rfl expr)⟩

/-! ### Parts that resolve -/

/-- The part resolves the expressions one after the other and asks nothing. -/
structure Resolves (part : Sync α) (exprs : List TypeExpr) : Prop where
  /-- Where the part returns, all expressions were resolved. -/
  returns : ∀ {before log value after}, part.Returns before log value after →
    log = [] ∧ ∃ placeholders, Introduces exprs before after placeholders
  /-- The part stops at the first expression that has no name. -/
  stops : ∀ {before log cause after}, part.Stops before log cause after →
    log = [] ∧ ∃ front expr rest placeholders, exprs = front ++ expr :: rest ∧
      expr.name.base = "" ∧ cause = .failed (.namelessType expr) ∧
      Introduces front before after placeholders

namespace Resolves

/-- A part that does nothing resolves nothing. -/
lemma pure (value : α) : Resolves (Pure.pure value) [] where
  returns h := by
    obtain ⟨rfl, -, rfl⟩ := returns_pure_iff.1 h
    exact ⟨rfl, [], .refl _⟩
  stops h := absurd h not_stops_pure

/-- Two parts in a row resolve the expressions of the first and then those of the second. -/
lemma bind {part : Sync α} {next : α → Sync β} {first second : List TypeExpr}
    (hpart : Resolves part first) (hnext : ∀ value, Resolves (next value) second) :
    Resolves (part >>= next) (first ++ second) where
  returns h := by
    obtain ⟨_, value, between, _, hfirst, hsecond, rfl⟩ := returns_bind_iff.1 h
    obtain ⟨rfl, early, hearly⟩ := hpart.returns hfirst
    obtain ⟨rfl, late, hlate⟩ := (hnext value).returns hsecond
    exact ⟨rfl, early ++ late, hearly.trans hlate⟩
  stops h := by
    rcases stops_bind_iff.1 h with hstop | ⟨_, value, between, _, hfirst, hstop, rfl⟩
    · obtain ⟨rfl, front, expr, rest, placeholders, rfl, hname, hcause, hfront⟩ :=
        hpart.stops hstop
      exact ⟨rfl, front, expr, rest ++ second, placeholders, by simp, hname, hcause, hfront⟩
    · obtain ⟨rfl, early, hearly⟩ := hpart.returns hfirst
      obtain ⟨rfl, front, expr, rest, late, rfl, hname, hcause, hlate⟩ :=
        (hnext value).stops hstop
      exact ⟨rfl, first ++ front, expr, rest, early ++ late, by simp, hname, hcause,
        hearly.trans hlate⟩

/-- A part whose value is used resolves what the part does. -/
lemma map {part : Sync α} {exprs : List TypeExpr} (hpart : Resolves part exprs) (f : α → β) :
    Resolves (part >>= fun value => Pure.pure (f value)) exprs := by
  simpa using hpart.bind fun value => Resolves.pure (f value)

end Resolves

/-- Resolving an expression resolves it. -/
lemma resolves_resolve (expr : TypeExpr) : Resolves (resolve expr) [expr] where
  returns {before log value after} h := by
    rw [Returns, resolve_apply] at h
    split at h
    · simp at h
    · next r hr =>
      obtain ⟨rfl, hout⟩ := Dialogue.ends_done_iff.1 h
      cases hout
      exact ⟨rfl, introduces_of_resolve hr⟩
  stops {before log cause after} h := by
    rw [Stops, resolve_apply] at h
    split at h
    · next error herror =>
      obtain ⟨rfl, hout⟩ := Dialogue.ends_done_iff.1 h
      cases hout
      obtain ⟨hname, rfl⟩ := Declared.error_of_resolve herror
      exact ⟨rfl, [], expr, [], [], rfl, hname, rfl, .refl _⟩
    · simp at h

/-! ### Signatures -/

/-- The incoming signature of a declaration: its return type and its whole parameter list. -/
def incoming (cls : ClassDecl) (decl : FunctionDecl) :
    Sync (Option DataType × List Parameter) := do
  let returnType ← returnTypeOf decl
  let this ← thisParams cls decl
  let declared ← declaredParams decl.params
  return (returnType, this ++ retParams returnType ++ declared)

/-- The return type is resolved, if there is one. -/
lemma resolves_returnTypeOf (decl : FunctionDecl) :
    Resolves (returnTypeOf decl) decl.returnType.toList := by
  unfold returnTypeOf
  cases decl.returnType with
  | none => exact .pure none
  | some expr => exact (resolves_resolve expr).map some

/-- The type of the implicit `this` is resolved, unless the function is static. -/
lemma resolves_thisParams (cls : ClassDecl) (decl : FunctionDecl) :
    Resolves (thisParams cls decl) (if decl.hasThis then [.pointerTo cls.name] else []) := by
  unfold thisParams
  split
  · exact (resolves_resolve _).map _
  · exact .pure []

/-- The types of the written parameters are resolved one after the other. -/
lemma resolves_declaredParams (decls : List ParamDecl) :
    Resolves (declaredParams decls) (decls.map ParamDecl.type) := by
  induction decls with
  | nil => exact .pure []
  | cons decl rest ih => exact (resolves_resolve decl.type).bind fun type => ih.map _

/-- The incoming signature resolves all that a declaration mentions. -/
lemma resolves_incoming (cls : ClassDecl) (decl : FunctionDecl) :
    Resolves (incoming cls decl) (Declared.mentioned cls decl) := by
  rw [Declared.mentioned, List.append_assoc]
  refine (resolves_returnTypeOf decl).bind fun returnType => ?_
  refine (resolves_thisParams cls decl).bind fun this => ?_
  exact (resolves_declaredParams decl.params).map _

end Sync

end BindingSync
