import BindingSync.Database.Persistence
import BindingSync.Proofs.Database.Sound
import BindingSync.Proofs.Json.Reading

/-!
# Restoring databases

The document of a sound database has that database (`Document.toDatabase?_ofDatabase`): each
part of the document is read on top of the parts in front of it, and finds there what it builds
on.  With the text of the document nothing more is lost, so a sound database without long integers
is restored from its text (`Database.deserialize_serialize`).
-/

namespace BindingSync

open BindingSync.Text

namespace Document

open Database (Distinct Nested)

/-! ### Categories -/

/-- Reading categories creates them one after the other. -/
lemma foldlM_addCategory? (categories : List (List WideString)) (db : Database) :
    (categories.map ofSegments).foldlM addCategory? db =
      some (categories.foldl Database.createCategory db) := by
  induction categories generalizing db with
  | nil => rfl
  | cons category categories ih =>
    have hstep : addCategory? db (ofSegments category) = some (db.createCategory category) := by
      simp [addCategory?]
    rw [List.map_cons, List.foldlM_cons, hstep]
    exact ih _

/-- Creating categories adds their beginnings and changes nothing else. -/
lemma foldl_createCategory (categories : List (List WideString)) (db : Database) :
    ∃ table, categories.foldl Database.createCategory db = { db with categories := table } ∧
      ∀ other, table.contains other = true ↔
        (∃ category ∈ categories, other ∈ Database.beginnings [] category) ∨
          db.categories.contains other = true := by
  induction categories generalizing db with
  | nil => exact ⟨db.categories, rfl, by simp⟩
  | cons category categories ih =>
    obtain ⟨table, heq, hcontains⟩ := ih (db.createCategory category)
    refine ⟨table, heq, fun other => ?_⟩
    rw [hcontains, Database.contains_createCategory]
    simp only [List.mem_cons, exists_eq_or_imp]
    rw [or_assoc]
    exact or_left_comm

/-- The categories of a sound database, read into a new one, give the same categories. -/
lemma foldlM_categories {db start : Database} (h : db.Sound) (hstart : start.categories = .empty) :
    (db.categories.toList.map ofSegments).foldlM addCategory? start =
      some { start with categories := db.categories } := by
  obtain ⟨table, heq, hcontains⟩ := foldl_createCategory db.categories.toList start
  have htable : table = db.categories := by
    refine Keyed.eq_of_contains fun other => ?_
    rw [Bool.eq_iff_iff, hcontains, hstart, Keyed.contains_empty]
    constructor
    · rintro (⟨category, hmem, hother⟩ | hempty)
      · exact (h.categories category hmem).2.2 other hother
      · cases hempty
    · intro hother
      obtain ⟨entry, hmem, rfl⟩ := Keyed.contains_iff.1 hother
      refine .inl ⟨entry, hmem, Database.mem_beginnings_nil_iff.2 ⟨?_, List.prefix_rfl⟩⟩
      exact (h.categories entry hmem).2.1
  rw [foldlM_addCategory?, heq, htable]

/-! ### Types -/

/-- Types that stand at different places are all added. -/
lemma foldlM_addType? {types : List NamedType} (h : Distinct types) {db : Database}
    (hknown : ∀ type ∈ types, db.KnowsCategory type.path.category) :
    (types.map fun type => ofType (.named type)).foldlM addType? { db with userTypes := [] } =
      some { db with userTypes := types } := by
  induction h with
  | nil => rfl
  | @snoc entries added h hstorable hbuiltin hnew ih =>
    have hentries := ih fun type hmem => hknown type (List.mem_append_left _ hmem)
    have hcategory : ({ db with userTypes := entries } : Database).createCategory
        added.path.category = { db with userTypes := entries } :=
      Database.createCategory_eq_self (hknown added (by simp))
    have hfree : ({ db with userTypes := entries } : Database).typeAt? added.path = none := by
      simpa [Database.typeAt?, hbuiltin, Database.userTypeAt?] using hnew
    rw [List.map_append, List.foldlM_append, hentries]
    simp [addType?, toType?_ofType (.named hstorable), Database.createType, hfree,
      Database.addType, hcategory, Except.toOption]

/-! ### Namespaces -/

/-- Namespaces that stand behind those around them are all added. -/
lemma foldlM_addNamespace? {entries : List Namespace} (h : Nested entries) (db : Database) :
    (entries.map ofNamespace).foldlM addNamespace? { db with namespaces := [] } =
      some { db with namespaces := entries } := by
  induction h with
  | nil => rfl
  | @snoc entries added h hjoined hne hnew hparent ih =>
    have hfree : ({ db with namespaces := entries } : Database).namespaceAt? added.path = none := by
      simpa [Database.namespaceAt?] using hnew
    have hknown : added.path.dropLast = [] ∨
        (({ db with namespaces := entries } : Database).namespaceAt? added.path.dropLast).isSome :=
      hparent.imp_right Database.isSome_namespaceAt?_iff.2
    have hplace : (added.path.isEmpty || !(added.path.dropLast.isEmpty ||
        (({ db with namespaces := entries } : Database).namespaceAt? added.path.dropLast).isSome)) =
          false := by
      rw [Bool.or_eq_false_iff, Bool.not_eq_false', Bool.or_eq_true, List.isEmpty_iff]
      exact ⟨by simpa using hne, hknown⟩
    have hstep : addNamespace? { db with namespaces := entries } (ofNamespace added) =
        some { db with namespaces := entries ++ [added] } := by
      simp only [addNamespace?, ofNamespace, field?_cons, toSegments?_ofSegments, Json.isTruthy,
        Option.bind_eq_bind, Option.bind_some, String.reduceEq, if_true, if_false, hplace,
        Bool.false_eq_true, Database.createNamespace, hfree, Option.isSome_none]
      rfl
    rw [List.map_append, List.foldlM_append, ih]
    simpa using hstep

/-! ### Functions -/

/-- Functions whose namespaces are known are all put in place. -/
lemma foldlM_addFunction? (functions : List FunctionRecord) (db : Database)
    (h : ∀ function ∈ functions, function.Storable ∧
      ∀ path ∈ function.namespacePath, path ≠ [] ∧ (db.namespaceAt? path).isSome) :
    (functions.map ofFunction).foldlM addFunction? db =
      some (functions.foldl Database.putFunction db) := by
  induction functions generalizing db with
  | nil => rfl
  | cons function functions ih =>
    obtain ⟨⟨hstorable, hscope⟩, hrest⟩ := List.forall_mem_cons.1 h
    have hstep : addFunction? db (ofFunction function) = some (db.putFunction function) := by
      rw [addFunction?, toFunction?_ofFunction hstorable hscope]
      rfl
    rw [List.map_cons, List.foldlM_cons, hstep]
    exact ih _ hrest

/-- Putting functions into a database changes only the functions. -/
lemma foldl_putFunction (functions : List FunctionRecord) (db : Database) :
    functions.foldl Database.putFunction db =
      { db with functions := functions.foldl Keyed.insert db.functions } := by
  induction functions generalizing db with
  | nil => rfl
  | cons function functions ih => exact ih _

/-! ### Whole databases -/

/-- The image base is given back. -/
@[simp] lemma toImageBase?_ofImageBase (imageBase : Option Int) :
    toImageBase? (ofImageBase imageBase) = some imageBase := by
  cases imageBase <;> rfl

/-- The document of a sound database has that database. -/
theorem toDatabase?_ofDatabase {db : Database} (h : db.Sound) :
    toDatabase? (ofDatabase db) = some db := by
  obtain ⟨imageBase, pointerSize, integerSize, functions, namespaces, categories, types, locked⟩ :=
    db
  obtain rfl : locked = false := h.isLocked
  have hcategories : (categories.toList.map ofSegments).foldlM addCategory?
      { imageBase, pointerSize, integerSize } =
        some { imageBase, pointerSize, integerSize, categories } :=
    foldlM_categories h rfl
  have htypes : (types.map fun type => ofType (.named type)).foldlM addType?
      { imageBase, pointerSize, integerSize, categories } =
        some { imageBase, pointerSize, integerSize, categories, userTypes := types } :=
    @foldlM_addType? _ h.types { imageBase, pointerSize, integerSize, categories } h.typeCategories
  have hnamespaces : (namespaces.map ofNamespace).foldlM addNamespace?
      { imageBase, pointerSize, integerSize, categories, userTypes := types } =
        some { imageBase, pointerSize, integerSize, namespaces, categories, userTypes := types } :=
    foldlM_addNamespace? h.namespaces
      { imageBase, pointerSize, integerSize, categories, userTypes := types }
  have hfunctions := foldlM_addFunction? functions.toList
    { imageBase, pointerSize, integerSize, namespaces, categories, userTypes := types }
    fun function hmem => ⟨(h.functions function hmem).1, fun path hpath =>
      ⟨(h.scope ((h.functions function hmem).2 path hpath)).1,
        (h.functions function hmem).2 path hpath⟩⟩
  rw [foldl_putFunction] at hfunctions
  simp only [Keyed.foldl_insert_toList] at hfunctions
  simp [toDatabase?, ofDatabase, field?_cons, toInt?, optionalMembers?, Json.members?, hcategories,
    htypes, hnamespaces, hfunctions]

/-- The document of a sound database loses nothing. -/
lemma faithful_ofDatabase {db : Database} (h : db.Sound) : (ofDatabase db).Faithful := by
  refine faithful_object ["v", "image-base", "pointer-size", "integer-size", "categories", "types",
    "namespaces", "functions"] rfl (by decide) ?_
  simp only [List.map_cons, List.map_nil, List.forall_mem_cons]
  refine ⟨.string (by simp), ?_, .int _, .int _, .array ?_, .array ?_, .array ?_, .array ?_,
    by simp⟩
  · cases db.imageBase with
    | none => exact .array (by simp)
    | some imageBase => exact .int imageBase
  · exact List.forall_mem_map.2 fun category hmem =>
      faithful_ofSegments (h.categories category hmem).1
  · exact List.forall_mem_map.2 fun type hmem =>
      faithful_ofType (.named (h.types.of_mem type hmem).1)
  · refine List.forall_mem_map.2 fun entry hmem => ?_
    refine faithful_object ["path", "class"] rfl (by decide) ?_
    simp only [List.map_cons, List.map_nil, List.forall_mem_cons]
    exact ⟨faithful_ofSegments (h.namespaces.of_mem entry hmem).1, .bool _, by simp⟩
  · exact List.forall_mem_map.2 fun function hmem =>
      faithful_ofFunction (h.functions function hmem).1

end Document

namespace Database

open Document

/-- A document of the version that is written is read as the database that it has. -/
lemma ofDocument_ofDatabase {db : Database} (h : db.Sound) :
    ofDocument (ofDatabase db) = .ok db := by
  have hdatabase := toDatabase?_ofDatabase h
  have hversion : toText? ((field? (ofDatabase db) "v").getD .null) = some ↑formatVersion := by
    simp [ofDatabase, field?_cons, toText?]
  rw [ofDatabase] at hdatabase hversion ⊢
  rw [ofDocument]
  simp only [hdatabase]
  exact if_pos hversion

/-- A sound database without long integers is restored from its text. -/
lemma deserialize_serialize {db : Database} (h : db.Sound)
    (hshort : (ofDatabase db).isWritable = true) : deserialize db.serialize = .ok db := by
  rw [deserialize, serialize, Json.parse_written (faithful_ofDatabase h) hshort]
  exact ofDocument_ofDatabase h

/-- What is read from the text of a sound database is the database. -/
lemma eq_of_deserialize_serialize? {db found : Database} (h : db.Sound) {text : String}
    (hwrite : db.serialize? = some text) (hread : deserialize text = .ok found) : found = db := by
  unfold serialize? at hwrite
  split at hwrite
  · next hshort =>
    cases hwrite
    exact Except.ok.inj (hread.symm.trans (deserialize_serialize h hshort))
  · cases hwrite

end Database

end BindingSync
