import BindingSync.Database.Basic
import BindingSync.Proofs.Database.Keyed

/-!
# Databases only grow

Every change that a synchronization makes keeps what is there: sizes stay, types and namespaces
are added behind those that exist, categories are added, and no function goes away.
`Database.Grows` is this relation.  It is a preorder, and what a database says about a type or
a category is still true of a database that it has grown into (`Grows.typeAt?`,
`Grows.knowsCategory`).  Statements about a whole run rest on this: types are resolved while
the database changes, and the answers hold for the database at the end.
-/

namespace BindingSync

open BindingSync.Text

namespace Database

/-! ### Functions -/

/-- Putting a function changes what stands at its address and nothing else. -/
lemma functionAt?_putFunction (db : Database) (function : FunctionRecord) (address : Int) :
    (db.putFunction function).functionAt? address =
      if function.address = address then some function else db.functionAt? address :=
  Keyed.get?_insert db.functions function address

/-- The function found at an address stands there. -/
lemma address_of_functionAt? {db : Database} {address : Int} {function : FunctionRecord}
    (h : db.functionAt? address = some function) : function.address = address :=
  (Keyed.mem_of_get? h).2

/-- Putting a function that is there changes nothing. -/
lemma putFunction_eq_self {db : Database} {address : Int} {function : FunctionRecord}
    (h : db.functionAt? address = some function) : db.putFunction function = db := by
  rw [putFunction, Keyed.insert_eq_self (Keyed.mem_of_get? h).1]

/-! ### Categories -/

/-- The category and all categories around it are there. -/
def KnowsCategory (db : Database) (category : List WideString) : Prop :=
  ∀ beginning ∈ beginnings [] category, db.categories.contains beginning = true

/-- Inserting categories adds them to those that are there. -/
lemma contains_foldl_insert (added : List (List WideString))
    (table : Keyed (id : List WideString → List WideString)) (category : List WideString) :
    (added.foldl Keyed.insert table).contains category = true ↔
      category ∈ added ∨ table.contains category = true := by
  induction added generalizing table with
  | nil => simp
  | cons first rest ih =>
    rw [List.foldl_cons, ih, Keyed.contains_insert, Bool.or_eq_true, decide_eq_true_eq,
      List.mem_cons, id_eq, eq_comm (a := first)]
    tauto

/-- Inserting categories that are all there changes nothing. -/
lemma foldl_insert_eq_self (added : List (List WideString))
    (table : Keyed (id : List WideString → List WideString))
    (h : ∀ category ∈ added, table.contains category = true) :
    added.foldl Keyed.insert table = table := by
  induction added with
  | nil => rfl
  | cons first rest ih =>
    obtain ⟨entry, hmem, rfl⟩ := Keyed.contains_iff.1 (h first List.mem_cons_self)
    rw [List.foldl_cons, id_eq, Keyed.insert_eq_self hmem]
    exact ih fun category hc => h category (List.mem_cons_of_mem _ hc)

/-- Creating a category adds its beginnings to the categories. -/
lemma contains_createCategory (db : Database) (category other : List WideString) :
    (db.createCategory category).categories.contains other = true ↔
      other ∈ beginnings [] category ∨ db.categories.contains other = true :=
  contains_foldl_insert _ _ _

/-- A category that was created is there, with all categories around it. -/
lemma knowsCategory_createCategory (db : Database) (category : List WideString) :
    (db.createCategory category).KnowsCategory category := fun beginning h =>
  (contains_createCategory db category beginning).2 (.inl h)

/-- Creating a category that is there changes nothing. -/
lemma createCategory_eq_self {db : Database} {category : List WideString}
    (h : db.KnowsCategory category) : db.createCategory category = db := by
  rw [createCategory, foldl_insert_eq_self _ _ h]

/-! ### Types -/

/-- A type that was added at a free place is found there. -/
lemma typeAt?_addType {db : Database} {type : NamedType} (h : db.typeAt? type.path = none) :
    (db.addType type).typeAt? type.path = some (.named type) := by
  unfold typeAt? at h ⊢
  split at h
  · simp at h
  · next hbuiltin =>
    have hnone : db.userTypes.find? (fun t => t.path = type.path) = none := by
      simpa [userTypeAt?] using h
    simp [userTypeAt?, addType, createCategory, List.find?_append, hnone]

/-- A type is created at a free place. -/
lemma eq_addType_of_createType {db db' : Database} {type : NamedType}
    (h : db.createType type = .ok db') : db.typeAt? type.path = none ∧ db' = db.addType type := by
  unfold createType at h
  split at h
  · cases h
  · next hfree =>
    cases h
    exact ⟨by simpa using hfree, rfl⟩

/-- A namespace is created at a free path. -/
lemma eq_addNamespace_of_createNamespace {db db' : Database} {added : Namespace}
    (h : db.createNamespace added = .ok db') :
    db.namespaceAt? added.path = none ∧ db' = db.addNamespace added := by
  unfold createNamespace at h
  split at h
  · cases h
  · next hfree =>
    cases h
    exact ⟨by simpa using hfree, rfl⟩

/-! ### Growth -/

/-- A database has grown into another one. -/
structure Grows (db db' : Database) : Prop where
  imageBase : db'.imageBase = db.imageBase
  pointerSize : db'.pointerSize = db.pointerSize
  integerSize : db'.integerSize = db.integerSize
  isLocked : db'.isLocked = db.isLocked
  functions : ∀ address, (db.functionAt? address).isSome → (db'.functionAt? address).isSome
  namespaces : db.namespaces <+: db'.namespaces
  categories : ∀ category, db.categories.contains category = true →
    db'.categories.contains category = true
  userTypes : db.userTypes <+: db'.userTypes

namespace Grows

/-- Nothing has to happen for a database to grow. -/
@[refl] lemma refl (db : Database) : db.Grows db :=
  ⟨rfl, rfl, rfl, rfl, fun _ => id, List.prefix_rfl, fun _ => id, List.prefix_rfl⟩

/-- Growing twice is growing. -/
lemma trans {a b c : Database} (hab : a.Grows b) (hbc : b.Grows c) : a.Grows c where
  imageBase := hbc.imageBase.trans hab.imageBase
  pointerSize := hbc.pointerSize.trans hab.pointerSize
  integerSize := hbc.integerSize.trans hab.integerSize
  isLocked := hbc.isLocked.trans hab.isLocked
  functions address h := hbc.functions address (hab.functions address h)
  namespaces := hab.namespaces.trans hbc.namespaces
  categories category h := hbc.categories category (hab.categories category h)
  userTypes := hab.userTypes.trans hbc.userTypes

/-- A type that is there stays what it is. -/
lemma typeAt? {db db' : Database} (h : db.Grows db') {path : TypePath} {type : DataType}
    (hfound : db.typeAt? path = some type) : db'.typeAt? path = some type := by
  obtain ⟨more, hmore⟩ := h.userTypes
  unfold Database.typeAt? at hfound ⊢
  split
  · next hbuiltin => rwa [hbuiltin] at hfound
  · next hbuiltin =>
    rw [hbuiltin] at hfound
    obtain ⟨named, hnamed, rfl⟩ := Option.map_eq_some_iff.1 hfound
    rw [userTypeAt?] at hnamed ⊢
    simp [← hmore, List.find?_append, hnamed]

/-- A category that is there stays, with all categories around it. -/
lemma knowsCategory {db db' : Database} (h : db.Grows db') {category : List WideString}
    (hknown : db.KnowsCategory category) : db'.KnowsCategory category := fun beginning hb =>
  h.categories beginning (hknown beginning hb)

end Grows

/-- Creating a category lets a database grow. -/
lemma grows_createCategory (db : Database) (category : List WideString) :
    db.Grows (db.createCategory category) where
  imageBase := rfl
  pointerSize := rfl
  integerSize := rfl
  isLocked := rfl
  functions _ := id
  namespaces := List.prefix_rfl
  categories other h := (contains_createCategory db category other).2 (.inr h)
  userTypes := List.prefix_rfl

/-- Adding a type lets a database grow. -/
lemma grows_addType (db : Database) (type : NamedType) : db.Grows (db.addType type) :=
  { grows_createCategory db type.path.category with userTypes := List.prefix_append _ _ }

/-- Adding a namespace lets a database grow. -/
lemma grows_addNamespace (db : Database) (added : Namespace) : db.Grows (db.addNamespace added) :=
  { Grows.refl db with namespaces := List.prefix_append _ _ }

/-- Putting a function lets a database grow. -/
lemma grows_putFunction (db : Database) (function : FunctionRecord) :
    db.Grows (db.putFunction function) :=
  { Grows.refl db with
    functions := fun address h => by
      rw [functionAt?_putFunction]
      split
      · rfl
      · exact h }

end Database

end BindingSync
