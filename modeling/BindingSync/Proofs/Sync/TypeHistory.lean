import BindingSync.Proofs.Sync.TypePaths

/-!
# Types over many resolutions

Type expressions are resolved one after the other, each in the database that the one before it left.
What comes of it is a matter of first mentions: the first expression that names a missing type
decides what its placeholder is, and whatever is stored from then on stays (`Resolution.History`).
So the order of the expressions counts for the kinds of the placeholders, and for nothing else.

A single resolution adds at most one placeholder, and it is missing no more for the expressions
behind it (`typeAt?_eq_none_iff`).  All the rest goes by induction on the list of expressions.
-/

namespace BindingSync

open BindingSync.Binding
open BindingSync.Text

namespace Resolution

variable {db : Database} {expr : TypeExpr} {exprs : List TypeExpr} {r : Resolution}
  {calls : List Resolution} {placeholders : List NamedType}

/-! ### Resolving in turn -/

/-- Resolves the expressions, each in the database that the one before it left. -/
def inTurn (db : Database) : List TypeExpr → Except SyncError (List Resolution)
  | [] => .ok []
  | expr :: rest => do
    let call ← resolve db expr
    let others ← inTurn call.db rest
    return call :: others

/-- The database that is left in the end. -/
def leaves (db : Database) (calls : List Resolution) : Database :=
  calls.foldl (fun _ call => call.db) db

/-- What an expression without marks stands for is taken for an enumeration of the size of an
integer, and anything else for a structure of no length. -/
def guess (db : Database) (expr : TypeExpr) : NamedType :=
  if expr.pointers = 0 ∧ expr.references = 0 then ⟨.enum, pathOf expr, db.integerSize⟩
  else ⟨.struct, pathOf expr, 0⟩

/-- The expression names a type that is missing, and none in front of it names the same. -/
def FirstToName (db : Database) (exprs : List TypeExpr) (expr : TypeExpr) : Prop :=
  ∃ front rest, exprs = front ++ expr :: rest ∧ db.typeAt? (pathOf expr) = none ∧
    ∀ earlier ∈ front, pathOf earlier ≠ pathOf expr

/-- What a sequence of resolutions does to a database. -/
structure History (db : Database) (exprs : List TypeExpr) (calls : List Resolution)
    (placeholders : List NamedType) : Prop where
  /-- Each call gives the type that is then stored, behind as many pointers as there are marks. -/
  returned : List.Forall₂ (fun expr call => ∃ found,
    call.db.typeAt? (pathOf expr) = some found ∧
      call.type = found.indirect db.pointerSize (expr.pointers + expr.references).toNat) exprs calls
  /-- What is stored before a call is stored after it and after all later ones. -/
  kept : (db :: calls.map Resolution.db).Pairwise fun earlier later =>
    ∀ path found, earlier.typeAt? path = some found → later.typeAt? path = some found
  /-- Nothing is different in the end but the categories, and the types by the placeholders. -/
  leaves_eq : leaves db calls = { db with
    categories := (leaves db calls).categories
    userTypes := db.userTypes ++ placeholders }
  /-- There is a placeholder at each place that is named and had no type, and only there. -/
  missing_iff : ∀ path, path ∈ placeholders.map NamedType.path ↔
    path ∈ exprs.map pathOf ∧ db.typeAt? path = none
  /-- There is one placeholder for a place at most. -/
  distinct : (placeholders.map NamedType.path).Nodup
  /-- The placeholders are the guesses at the missing types by who names them first. -/
  mem_iff : ∀ type, type ∈ placeholders ↔
    ∃ expr, FirstToName db exprs expr ∧ type = guess db expr
  /-- There is one warning for each placeholder, in the order of their creation. -/
  warnings_eq : calls.flatMap Resolution.warnings =
    placeholders.map fun type => .newType type.path type.kind
  /-- The categories are those from before and all that begin the scopes of an expression. -/
  categories_iff : ∀ category, (leaves db calls).categories.contains category = true ↔
    db.categories.contains category = true ∨
      category ≠ [] ∧ ∃ expr ∈ exprs, category <+: expr.name.scopes.map WideString.plain
  /-- Resolving an expression again at any later time gives the same and changes nothing. -/
  repeated : ∀ (index : Nat) expr call, exprs[index]? = some expr → calls[index]? = some call →
    ∀ later ∈ calls.drop index, resolve later.db expr = .ok ⟨call.type, later.db, []⟩

/-- A sequence of resolutions is the first of them and those that follow. -/
lemma inTurn_cons_eq_ok_iff : inTurn db (expr :: exprs) = .ok calls ↔
    ∃ call others, resolve db expr = .ok call ∧ inTurn call.db exprs = .ok others ∧
      calls = call :: others := by
  constructor
  · intro h
    obtain ⟨call, hcall, h⟩ := exists_of_bind_eq_ok h
    obtain ⟨others, hothers, h⟩ := exists_of_bind_eq_ok h
    exact ⟨call, others, hcall, hothers, (Except.ok.inj h).symm⟩
  · rintro ⟨call, others, hcall, hothers, rfl⟩
    rw [inTurn, hcall, ok_bind, hothers]
    rfl

/-- Expressions with names are resolved in every database. -/
lemma exists_inTurn_eq_ok (hnamed : ∀ expr ∈ exprs, expr.name.base ≠ "") (db : Database) :
    ∃ calls, inTurn db exprs = .ok calls := by
  induction exprs generalizing db with
  | nil => exact ⟨[], rfl⟩
  | cons expr rest ih =>
    obtain ⟨hname, hrest⟩ := List.forall_mem_cons.1 hnamed
    obtain ⟨call, hcall⟩ := exists_resolve_eq_ok hname db
    obtain ⟨others, hothers⟩ := ih hrest call.db
    exact ⟨call :: others, inTurn_cons_eq_ok_iff.2 ⟨call, others, hcall, hothers, rfl⟩⟩

/-! ### What stays -/

/-- Each database has grown out of all that came before it. -/
lemma pairwise_grows (h : inTurn db exprs = .ok calls) :
    (db :: calls.map Resolution.db).Pairwise Database.Grows := by
  induction exprs generalizing db calls with
  | nil =>
    cases h
    simp
  | cons expr rest ih =>
    obtain ⟨call, others, hcall, hothers, rfl⟩ := inTurn_cons_eq_ok_iff.1 h
    have hgrows : db.Grows call.db := (Declared.grows_of_resolve hcall).1
    have hlater := ih hothers
    refine List.pairwise_cons.2 ⟨List.forall_mem_cons.2 ⟨hgrows, fun later hmem => ?_⟩, hlater⟩
    exact hgrows.trans ((List.pairwise_cons.1 hlater).1 later hmem)

/-- After each call its expression is known, and it reads as what the call gave. -/
lemma known_of_inTurn (h : inTurn db exprs = .ok calls) :
    List.Forall₂ (fun expr call => Declared.KnownType call.db expr ∧
      Declared.type? call.db expr = some call.type) exprs calls := by
  induction exprs generalizing db calls with
  | nil =>
    cases h
    exact .nil
  | cons expr rest ih =>
    obtain ⟨call, others, hcall, hothers, rfl⟩ := inTurn_cons_eq_ok_iff.1 h
    exact .cons (Declared.known_of_resolve hcall) (ih hothers)

/-- A call gives the type that is then stored, behind its pointers. -/
lemma returned_of_inTurn (h : inTurn db exprs = .ok calls) :
    List.Forall₂ (fun expr call => ∃ found, call.db.typeAt? (pathOf expr) = some found ∧
      call.type = found.indirect db.pointerSize (depth expr)) exprs calls := by
  have hgrows := (List.pairwise_cons.1 (pairwise_grows h)).1
  refine List.forall₂_iff_get.2 ⟨(known_of_inTurn h).length_eq, fun index hexpr hcall => ?_⟩
  obtain ⟨-, hread⟩ := (known_of_inTurn h).get hexpr hcall
  obtain ⟨found, hfound, htype⟩ := Option.map_eq_some_iff.1 hread
  rw [(hgrows _ (List.mem_map_of_mem (List.get_mem calls _))).pointerSize] at htype
  exact ⟨found, hfound, htype.symm⟩

/-- At any later time an expression is resolved as before, and nothing changes. -/
lemma resolve_later (h : inTurn db exprs = .ok calls) {index : Nat} {expr : TypeExpr}
    {call : Resolution} (hexpr : exprs[index]? = some expr) (hcall : calls[index]? = some call) :
    ∀ later ∈ calls.drop index, resolve later.db expr = .ok ⟨call.type, later.db, []⟩ := by
  obtain ⟨hexprs, rfl⟩ := List.getElem?_eq_some_iff.1 hexpr
  obtain ⟨hcalls, rfl⟩ := List.getElem?_eq_some_iff.1 hcall
  obtain ⟨hknown, hread⟩ := (known_of_inTurn h).get hexprs hcalls
  have hgrows : ((calls.drop index).map Resolution.db).Pairwise Database.Grows := by
    rw [List.map_drop]
    exact (List.pairwise_cons.1 (pairwise_grows h)).2.drop
  rw [List.drop_eq_getElem_cons hcalls, List.map_cons, List.pairwise_cons] at hgrows
  intro later hlater
  have hlater' : calls[index].db.Grows later.db := by
    rw [List.drop_eq_getElem_cons hcalls, List.mem_cons] at hlater
    rcases hlater with rfl | hlater
    · exact .refl _
    · exact hgrows.1 _ (List.mem_map_of_mem hlater)
  exact Declared.resolve_of_known (hknown.of_grows hlater') (Declared.type?_of_grows hlater' hread)

/-! ### What is added -/

/-- Adding a type changes what stands at its place only. -/
lemma typeAt?_addType_of_ne {type : NamedType} {path : TypePath} (h : path ≠ type.path) :
    (db.addType type).typeAt? path = db.typeAt? path := by
  simp [Database.typeAt?, Database.userTypeAt?, Database.addType, Database.createCategory,
    List.find?_append, h.symm]

/-- After an expression was resolved, a type is missing if it was before and if the expression does
not name it. -/
lemma typeAt?_eq_none_iff (h : resolve db expr = .ok r) {path : TypePath} :
    r.db.typeAt? path = none ↔ db.typeAt? path = none ∧ path ≠ pathOf expr := by
  constructor
  · intro hnone
    constructor
    · by_contra hsome
      obtain ⟨found, hfound⟩ := Option.ne_none_iff_exists'.1 hsome
      rw [(Declared.grows_of_resolve h).1.typeAt? hfound] at hnone
      cases hnone
    · rintro rfl
      obtain ⟨found, hfound, -⟩ := Option.map_eq_some_iff.1 (Declared.known_of_resolve h).2
      rw [hfound] at hnone
      cases hnone
  · rintro ⟨hnone, hne⟩
    obtain ⟨-, created, rfl, ⟨found, -, rfl⟩ | ⟨added, rfl, -, rfl⟩⟩ := Declared.resolve_cases h
    · exact hnone
    · rw [typeAt?_addType_of_ne (by rwa [Declared.path_placeholder])]
      exact hnone

/-- An expression is the first to name a missing type if it is the first of all, or if it is so
among the others after the first was resolved. -/
lemma firstToName_cons_iff (h : resolve db expr = .ok r) {other : TypeExpr} :
    FirstToName db (expr :: exprs) other ↔
      (db.typeAt? (pathOf expr) = none ∧ other = expr) ∨ FirstToName r.db exprs other := by
  constructor
  · rintro ⟨front, rest, hsplit, hnone, hfront⟩
    cases front with
    | nil =>
      obtain ⟨rfl, -⟩ := List.cons.inj hsplit
      exact .inl ⟨hnone, rfl⟩
    | cons first front =>
      obtain ⟨rfl, rfl⟩ := List.cons.inj hsplit
      obtain ⟨hfirst, hfront⟩ := List.forall_mem_cons.1 hfront
      exact .inr ⟨front, rest, rfl, (typeAt?_eq_none_iff h).2 ⟨hnone, hfirst.symm⟩, hfront⟩
  · rintro (⟨hnone, rfl⟩ | ⟨front, rest, rfl, hnone, hfront⟩)
    · exact ⟨[], exprs, rfl, hnone, by simp⟩
    · obtain ⟨hnone, hne⟩ := (typeAt?_eq_none_iff h).1 hnone
      exact ⟨expr :: front, rest, rfl, hnone, List.forall_mem_cons.2 ⟨hne.symm, hfront⟩⟩

/-- Who is the first to name a type is one of the expressions. -/
lemma FirstToName.mem (h : FirstToName db exprs expr) : expr ∈ exprs := by
  obtain ⟨front, rest, rfl, -⟩ := h
  simp

/-- Of the expressions that name a missing type one is the first. -/
lemma exists_firstToName {expr : TypeExpr} (hmem : expr ∈ exprs)
    (hnone : db.typeAt? (pathOf expr) = none) :
    ∃ first, FirstToName db exprs first ∧ pathOf first = pathOf expr := by
  induction exprs with
  | nil => cases hmem
  | cons head rest ih =>
    by_cases hhead : pathOf head = pathOf expr
    · exact ⟨head, ⟨[], rest, rfl, hhead ▸ hnone, by simp⟩, hhead⟩
    · have hrest : expr ∈ rest := by
        refine (List.mem_cons.1 hmem).resolve_left ?_
        rintro rfl
        exact hhead rfl
      obtain ⟨first, ⟨front, back, hsplit, hmissing, hfront⟩, hpath⟩ := ih hrest
      refine ⟨first, ⟨head :: front, back, by rw [hsplit]; rfl, hmissing, ?_⟩, hpath⟩
      exact List.forall_mem_cons.2 ⟨by rwa [hpath], hfront⟩

/-- Resolving an expression adds a placeholder for it if its type is missing, and nothing else. -/
lemma exists_created_of_resolve (h : resolve db expr = .ok r) :
    ∃ created, r.db.userTypes = db.userTypes ++ created ∧
      ∀ type, type ∈ created ↔ db.typeAt? (pathOf expr) = none ∧ type = placeholder db expr := by
  obtain ⟨-, created, rfl, ⟨found, hfound, rfl⟩ | ⟨added, rfl, hnone, rfl⟩⟩ :=
    Declared.resolve_cases h
  · have hsome : db.typeAt? (pathOf expr) = some found := hfound
    exact ⟨[], by simp [Database.createCategory], by simp [hsome]⟩
  · have hfree : db.typeAt? (pathOf expr) = none := hnone
    exact ⟨[placeholder db expr], rfl, by simp [hfree]⟩

/-- Resolving expressions in turn introduces placeholders, and it changes nothing else. -/
lemma introduces_of_inTurn (h : inTurn db exprs = .ok calls) (raised : List Warning) :
    ∃ placeholders, Sync.Introduces exprs { db, warnings := raised }
      { db := leaves db calls, warnings := raised ++ calls.flatMap Resolution.warnings }
      placeholders := by
  induction exprs generalizing db calls raised with
  | nil =>
    cases h
    exact ⟨[], by simpa [leaves] using Sync.Introduces.refl { db, warnings := raised }⟩
  | cons expr rest ih =>
    obtain ⟨call, others, hcall, hothers, rfl⟩ := inTurn_cons_eq_ok_iff.1 h
    have hfirst : ∃ placeholders, Sync.Introduces [expr] { db, warnings := raised }
        { db := call.db, warnings := raised ++ call.warnings } placeholders :=
      Sync.introduces_of_resolve hcall
    obtain ⟨early, hearly⟩ := hfirst
    obtain ⟨late, hlate⟩ := ih hothers (raised ++ call.warnings)
    refine ⟨early ++ late, ?_⟩
    simpa [leaves] using hearly.trans hlate

/-- The placeholders that were added are those for the expressions that are the first to name their
types. -/
lemma mem_placeholders_iff (h : inTurn db exprs = .ok calls)
    (hadded : (leaves db calls).userTypes = db.userTypes ++ placeholders) (type : NamedType) :
    type ∈ placeholders ↔ ∃ expr, FirstToName db exprs expr ∧ type = placeholder db expr := by
  induction exprs generalizing db calls placeholders with
  | nil =>
    cases h
    have hnil : placeholders = [] := by simpa [leaves] using hadded
    simp [hnil, FirstToName]
  | cons expr rest ih =>
    obtain ⟨call, others, hcall, hothers, rfl⟩ := inTurn_cons_eq_ok_iff.1 h
    obtain ⟨created, hcreated, hmem⟩ := exists_created_of_resolve hcall
    have hsize : call.db.integerSize = db.integerSize :=
      (Declared.grows_of_resolve hcall).1.integerSize
    obtain ⟨later, hintroduces⟩ := introduces_of_inTurn hothers []
    have hlater : (leaves call.db others).userTypes = call.db.userTypes ++ later :=
      hintroduces.userTypes
    have hsplit : placeholders = created ++ later := by
      have hleaves : leaves db (call :: others) = leaves call.db others := rfl
      rw [hleaves, hlater, hcreated, List.append_assoc] at hadded
      exact (List.append_cancel_left hadded).symm
    rw [hsplit, List.mem_append, hmem, ih hothers hlater]
    simp only [firstToName_cons_iff hcall, placeholder_congr hsize, or_and_right, exists_or]
    simp

/-! ### Histories -/

/-- A guess stands at the place of its expression. -/
@[simp] lemma path_guess (db : Database) (expr : TypeExpr) :
    (guess db expr).path = pathOf expr := by
  unfold guess
  split <;> rfl

/-- The placeholder for an expression is the guess at its marks, where they are counted. -/
lemma placeholder_eq_guess (hpointers : 0 ≤ expr.pointers) (hreferences : 0 ≤ expr.references) :
    placeholder db expr = guess db expr := by
  have hmarks : expr.isIndirect = true ↔ ¬(expr.pointers = 0 ∧ expr.references = 0) := by
    simp only [TypeExpr.isIndirect, Bool.or_eq_true, decide_eq_true_eq]
    omega
  unfold placeholder guess
  by_cases h : expr.pointers = 0 ∧ expr.references = 0
  · rw [if_neg (by simpa [h] using hmarks), if_pos h]
  · rw [if_pos (hmarks.2 h), if_neg h]

/-- The guesses at all missing types stand where types are named and missing. -/
lemma mem_paths_iff (h : ∀ type, type ∈ placeholders ↔
      ∃ expr, FirstToName db exprs expr ∧ type = guess db expr) (path : TypePath) :
    path ∈ placeholders.map NamedType.path ↔
      path ∈ exprs.map pathOf ∧ db.typeAt? path = none := by
  constructor
  · intro hmem
    obtain ⟨type, htype, rfl⟩ := List.mem_map.1 hmem
    obtain ⟨expr, hfirst, rfl⟩ := (h type).1 htype
    have hmem := hfirst.mem
    obtain ⟨_, _, -, hnone, -⟩ := hfirst
    rw [path_guess]
    exact ⟨List.mem_map_of_mem hmem, hnone⟩
  · rintro ⟨hmem, hnone⟩
    obtain ⟨expr, hexpr, rfl⟩ := List.mem_map.1 hmem
    obtain ⟨first, hfirst, hpath⟩ := exists_firstToName hexpr hnone
    rw [← hpath, ← path_guess db first]
    exact List.mem_map_of_mem ((h _).2 ⟨first, hfirst, rfl⟩)

/-- Expressions that were read can be resolved in turn, in every database.  Each of them gives the
type that is stored at its place from then on; the first to name a missing type decides what its
placeholder is; one warning is raised for each placeholder; and to resolve any of the expressions
again changes nothing. -/
theorem exists_history (db : Database) (exprs : List TypeExpr) (h : ∀ expr ∈ exprs, expr.IsRead) :
    ∃ calls placeholders, inTurn db exprs = .ok calls ∧ History db exprs calls placeholders := by
  have hnamed : ∀ expr ∈ exprs, expr.name.base ≠ "" := by
    intro expr hmem
    obtain ⟨_, hfits⟩ := (h expr hmem).exists_fitsIn
    exact base_ne_empty hfits.name
  obtain ⟨calls, hcalls⟩ := exists_inTurn_eq_ok hnamed db
  obtain ⟨placeholders, hintroduces⟩ := introduces_of_inTurn hcalls []
  have hguesses : ∀ type, type ∈ placeholders ↔
      ∃ expr, FirstToName db exprs expr ∧ type = guess db expr := by
    intro type
    rw [mem_placeholders_iff hcalls hintroduces.userTypes]
    refine exists_congr fun expr => and_congr_right fun hfirst => ?_
    obtain ⟨_, hfits⟩ := (h expr hfirst.mem).exists_fitsIn
    obtain ⟨hpointers, hreferences⟩ := hfits.depths_nonneg
    rw [placeholder_eq_guess hpointers hreferences]
  have hkept : (db :: calls.map Resolution.db).Pairwise fun earlier later =>
      ∀ path found, earlier.typeAt? path = some found → later.typeAt? path = some found := by
    refine (pairwise_grows hcalls).imp ?_
    intro earlier later hgrows path found hfound
    exact hgrows.typeAt? hfound
  refine ⟨calls, placeholders, hcalls, ?_⟩
  exact {
    returned := returned_of_inTurn hcalls
    kept := hkept
    leaves_eq := congrArg Progress.db hintroduces.after_eq
    missing_iff := mem_paths_iff hguesses
    distinct := hintroduces.distinct
    mem_iff := hguesses
    warnings_eq := by simpa using congrArg Progress.warnings hintroduces.after_eq
    categories_iff := by
      intro category
      rw [hintroduces.categories category]
      simp only [Database.mem_beginnings_nil_iff, pathOf]
      tauto
    repeated := fun _ _ _ => resolve_later hcalls }

/-- The type `gd::vector<CCNode*>`. -/
def nodesByValue : TypeExpr :=
  .mk nodePointers.name nodePointers.args false 0 0

/-- In an empty database, a vector that is first named behind an ampersand is taken for a structure,
and stays one when it is named by value; another vector is named by value only. -/
theorem exists_history_nodes :
    (∀ expr ∈ [nodePointers, nodesByValue, nodeValues], expr.IsRead) ∧
      ∃ calls placeholders, inTurn {} [nodePointers, nodesByValue, nodeValues] = .ok calls ∧
        History {} [nodePointers, nodesByValue, nodeValues] calls placeholders ∧
        placeholders = [⟨.struct, ⟨["gd"], "vector<CCNode*>"⟩, 0⟩,
          ⟨.enum, ⟨["gd"], "vector<CCNode>"⟩, 4⟩] := by
  obtain ⟨hpointers, hvalues⟩ := isRead_nodes
  have hvalue : nodesByValue.IsRead :=
    TypeExpr.isRead_of_source "gd::vector<CCNode*>" 2 (by decide +kernel)
  have hread : ∀ expr ∈ [nodePointers, nodesByValue, nodeValues], expr.IsRead := by
    simp [hpointers, hvalue, hvalues]
  have htypes : (inTurn {} [nodePointers, nodesByValue, nodeValues]).toOption.map
      (fun calls => (leaves {} calls).userTypes) = some [⟨.struct, ⟨["gd"], "vector<CCNode*>"⟩, 0⟩,
        ⟨.enum, ⟨["gd"], "vector<CCNode>"⟩, 4⟩] := by decide +kernel
  obtain ⟨calls, placeholders, hcalls, history⟩ := exists_history {} _ hread
  have hadded : (leaves {} calls).userTypes = placeholders :=
    congrArg Database.userTypes history.leaves_eq
  rw [hcalls] at htypes
  exact ⟨hread, calls, placeholders, hcalls, history, hadded.symm.trans (Option.some.inj htypes)⟩

end Resolution

end BindingSync
