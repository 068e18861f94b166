import Mathlib.Data.List.Nodup
import BindingSync.Proofs.Database.Growth
import BindingSync.Proofs.Database.Storable

/-!
# Sound databases

A document lists the parts of a database in the order in which they build on one another.  That
it says enough to build the database again rests on what nobody writes down: a category comes
with all categories around it, a namespace stands behind the one around it, no two types and no
two namespaces stand at the same place, and the namespaces of functions are there.  A database
is `Sound` if all this holds and its parts can be stored.  A new database is sound, and each
change by which a database is built keeps it sound.
-/

namespace BindingSync

open BindingSync.Text

namespace Database

/-! ### Beginnings of paths -/

/-- The beginnings of a path are its prefixes, the empty one left out. -/
lemma mem_beginnings_iff {before path beginning : List WideString} :
    beginning ∈ beginnings before path ↔
      ∃ front, front ≠ [] ∧ front <+: path ∧ beginning = before ++ front := by
  induction path generalizing before with
  | nil =>
    simp only [beginnings, List.not_mem_nil, List.prefix_nil, false_iff]
    rintro ⟨front, hne, rfl, -⟩
    exact hne rfl
  | cons segment path ih =>
    rw [beginnings, List.mem_cons, ih]
    constructor
    · rintro (rfl | ⟨front, -, hbefore, rfl⟩)
      · exact ⟨[segment], by simp, by simp, rfl⟩
      · exact ⟨segment :: front, by simp, List.cons_prefix_cons.2 ⟨rfl, hbefore⟩, by simp⟩
    · rintro ⟨front, hne, hbefore, rfl⟩
      cases front with
      | nil => exact absurd rfl hne
      | cons first front =>
        obtain ⟨rfl, hrest⟩ := List.cons_prefix_cons.1 hbefore
        by_cases hfront : front = []
        · exact .inl (by rw [hfront])
        · exact .inr ⟨front, hfront, hrest, by simp⟩

/-- The beginnings of a path from the root on are its prefixes, the empty one left out. -/
lemma mem_beginnings_nil_iff {path beginning : List WideString} :
    beginning ∈ beginnings [] path ↔ beginning ≠ [] ∧ beginning <+: path := by
  rw [mem_beginnings_iff]
  constructor
  · rintro ⟨front, hne, hbefore, rfl⟩
    exact ⟨hne, hbefore⟩
  · rintro ⟨hne, hbefore⟩
    exact ⟨beginning, hne, hbefore, rfl⟩

/-- With a category all categories around each of its beginnings are there. -/
lemma KnowsCategory.of_beginning {db : Database} {category beginning : List WideString}
    (h : db.KnowsCategory category) (hbefore : beginning <+: category) :
    db.KnowsCategory beginning := fun first hfirst =>
  h first (mem_beginnings_nil_iff.2 ⟨(mem_beginnings_nil_iff.1 hfirst).1,
    (mem_beginnings_nil_iff.1 hfirst).2.trans hbefore⟩)

/-! ### Namespaces -/

/-- There is a namespace at a path exactly if one of the namespaces has that path. -/
lemma isSome_namespaceAt?_iff {db : Database} {path : List WideString} :
    (db.namespaceAt? path).isSome ↔ ∃ entry ∈ db.namespaces, entry.path = path := by
  simp [namespaceAt?, List.find?_isSome]

/-- A namespace that is there stays. -/
lemma Grows.isSome_namespaceAt? {db db' : Database} (h : db.Grows db') {path : List WideString}
    (hknown : (db.namespaceAt? path).isSome) : (db'.namespaceAt? path).isSome := by
  obtain ⟨entry, hmem, hpath⟩ := isSome_namespaceAt?_iff.1 hknown
  exact isSome_namespaceAt?_iff.2 ⟨entry, h.namespaces.subset hmem, hpath⟩

/-! ### The invariant -/

/-- The namespaces stand at different places, each behind the one around it. -/
inductive Nested : List Namespace → Prop
  | nil : Nested []
  | snoc {entries : List Namespace} {added : Namespace} (h : Nested entries)
      (hjoined : IsJoinedPath added.path) (hne : added.path ≠ [])
      (hnew : ∀ entry ∈ entries, entry.path ≠ added.path)
      (hparent : added.path.dropLast = [] ∨
        ∃ entry ∈ entries, entry.path = added.path.dropLast) : Nested (entries ++ [added])

/-- The types can be stored and stand at different places, none of them that of a builtin type. -/
inductive Distinct : List NamedType → Prop
  | nil : Distinct []
  | snoc {entries : List NamedType} {added : NamedType} (h : Distinct entries)
      (hstorable : added.Storable) (hbuiltin : Builtin.ofPath? added.path = none)
      (hnew : ∀ entry ∈ entries, entry.path ≠ added.path) : Distinct (entries ++ [added])

/-- The parts of the database build on one another, and all of them can be stored. -/
structure Sound (db : Database) : Prop where
  isLocked : db.isLocked = false
  categories : ∀ category ∈ db.categories.toList,
    IsJoinedPath category ∧ category ≠ [] ∧ db.KnowsCategory category
  types : Distinct db.userTypes
  typeCategories : ∀ type ∈ db.userTypes, db.KnowsCategory type.path.category
  namespaces : Nested db.namespaces
  functions : ∀ function ∈ db.functions.toList, function.Storable ∧
    ∀ path ∈ function.namespacePath, (db.namespaceAt? path).isSome

/-- The path of a namespace is joined and not empty, and the namespace is at the root, or the one
around it is there. -/
lemma Nested.of_mem {entries : List Namespace} (h : Nested entries) :
    ∀ entry ∈ entries, IsJoinedPath entry.path ∧ entry.path ≠ [] ∧
      (entry.path.dropLast = [] ∨ ∃ other ∈ entries, other.path = entry.path.dropLast) := by
  induction h with
  | nil => simp
  | snoc _ hjoined hne _ hparent ih =>
    intro entry hmem
    rcases List.mem_append.1 hmem with hmem | hmem
    · obtain ⟨hpath, hentry, hroot | ⟨other, hother, hparent'⟩⟩ := ih entry hmem
      · exact ⟨hpath, hentry, .inl hroot⟩
      · exact ⟨hpath, hentry, .inr ⟨other, List.mem_append_left _ hother, hparent'⟩⟩
    · rw [List.mem_singleton.1 hmem]
      exact ⟨hjoined, hne, hparent.imp_right fun ⟨other, hother, hpath⟩ =>
        ⟨other, List.mem_append_left _ hother, hpath⟩⟩

/-- No two namespaces have the same path. -/
lemma Nested.nodup {entries : List Namespace} (h : Nested entries) :
    (entries.map Namespace.path).Nodup := by
  induction h with
  | nil => simp
  | snoc _ _ _ hnew _ ih =>
    rw [List.map_append, List.nodup_append]
    exact ⟨ih, by simp, by simpa using hnew⟩

/-- The defined types can be stored, and none of them stands at the place of a builtin type. -/
lemma Distinct.of_mem {entries : List NamedType} (h : Distinct entries) :
    ∀ entry ∈ entries, entry.Storable ∧ Builtin.ofPath? entry.path = none := by
  induction h with
  | nil => simp
  | snoc _ hstorable hbuiltin _ ih =>
    intro entry hmem
    rcases List.mem_append.1 hmem with hmem | hmem
    · exact ih entry hmem
    · rw [List.mem_singleton.1 hmem]
      exact ⟨hstorable, hbuiltin⟩

/-- No two defined types have the same path. -/
lemma Distinct.nodup {entries : List NamedType} (h : Distinct entries) :
    (entries.map NamedType.path).Nodup := by
  induction h with
  | nil => simp
  | snoc _ _ _ hnew ih =>
    rw [List.map_append, List.nodup_append]
    exact ⟨ih, by simp, by simpa using hnew⟩

/-- A new database is sound. -/
lemma sound_new (imageBase : Option Int) (pointerSize integerSize : Int) :
    Sound { imageBase, pointerSize, integerSize } where
  isLocked := rfl
  categories := by simp
  types := .nil
  typeCategories := by simp
  namespaces := .nil
  functions := by simp

namespace Sound

variable {db : Database}

/-- The scope of a function of a sound database is a namespace and not the global one. -/
lemma scope (h : db.Sound) {path : List WideString} (hknown : (db.namespaceAt? path).isSome) :
    path ≠ [] ∧ IsJoinedPath path := by
  obtain ⟨entry, hmem, rfl⟩ := isSome_namespaceAt?_iff.1 hknown
  obtain ⟨hjoined, hne, -⟩ := h.namespaces.of_mem entry hmem
  exact ⟨hne, hjoined⟩

/-- Creating a category keeps a database sound. -/
lemma createCategory (h : db.Sound) {category : List WideString} (hjoined : IsJoinedPath category) :
    (db.createCategory category).Sound where
  isLocked := h.isLocked
  categories := by
    intro other hmem
    have hgrows := db.grows_createCategory category
    rcases (contains_createCategory db category other).1 (Keyed.contains_iff.2 ⟨other, hmem, rfl⟩)
      with hother | hother
    · obtain ⟨hne, hbefore⟩ := mem_beginnings_nil_iff.1 hother
      exact ⟨fun segment hsegment => hjoined segment (hbefore.subset hsegment), hne,
        (knowsCategory_createCategory db category).of_beginning hbefore⟩
    · obtain ⟨entry, hentry, rfl⟩ := Keyed.contains_iff.1 hother
      obtain ⟨hpath, hne, hknown⟩ := h.categories entry hentry
      exact ⟨hpath, hne, hgrows.knowsCategory hknown⟩
  types := h.types
  typeCategories type hmem :=
    (db.grows_createCategory category).knowsCategory (h.typeCategories type hmem)
  namespaces := h.namespaces
  functions := h.functions

/-- Adding a type at a free place keeps a database sound. -/
lemma addType (h : db.Sound) {type : NamedType} (hstorable : type.Storable)
    (hnew : db.typeAt? type.path = none) : (db.addType type).Sound := by
  have hcreated := h.createCategory hstorable.category
  have hbuiltin : Builtin.ofPath? type.path = none := by
    unfold typeAt? at hnew
    split at hnew
    · cases hnew
    · next heq => exact heq
  have hfree : ∀ entry ∈ db.userTypes, entry.path ≠ type.path := by
    simpa [typeAt?, hbuiltin, userTypeAt?] using hnew
  refine { hcreated with types := h.types.snoc hstorable hbuiltin hfree, typeCategories := ?_ }
  intro entry hmem
  rcases List.mem_append.1 hmem with hmem | hmem
  · exact hcreated.typeCategories entry hmem
  · rw [List.mem_singleton.1 hmem]
    exact knowsCategory_createCategory db type.path.category

/-- Adding a namespace inside one that is there, or at the root, keeps a database sound. -/
lemma addNamespace (h : db.Sound) {added : Namespace} (hjoined : IsJoinedPath added.path)
    (hne : added.path ≠ []) (hnew : db.namespaceAt? added.path = none)
    (hparent : added.path.dropLast = [] ∨ (db.namespaceAt? added.path.dropLast).isSome) :
    (db.addNamespace added).Sound := by
  have hfree : ∀ entry ∈ db.namespaces, entry.path ≠ added.path := by
    simpa [namespaceAt?] using hnew
  refine { h with
    namespaces := h.namespaces.snoc hjoined hne hfree (hparent.imp_right isSome_namespaceAt?_iff.1)
    functions := fun function hmem => ⟨(h.functions function hmem).1, fun path hpath => ?_⟩ }
  exact (db.grows_addNamespace added).isSome_namespaceAt? ((h.functions function hmem).2 path hpath)

/-- Putting a function whose namespace is there keeps a database sound. -/
lemma putFunction (h : db.Sound) {function : FunctionRecord} (hstorable : function.Storable)
    (hscope : ∀ path ∈ function.namespacePath, (db.namespaceAt? path).isSome) :
    (db.putFunction function).Sound := by
  refine { h with functions := fun other hmem => ?_ }
  rcases Keyed.mem_toList_insert hmem with rfl | hmem
  · exact ⟨hstorable, hscope⟩
  · exact h.functions other hmem

end Sound

end Database

end BindingSync
