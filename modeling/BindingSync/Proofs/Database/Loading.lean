import BindingSync.Proofs.Database.Entries

/-!
# Loaded databases

What is loaded from a text can be stored again.  Each change by which a document is turned into
a database checks what a sound database needs, so every database that is loaded is sound
(`Database.sound_of_deserialize`), and its document is readable again
(`Database.readable_of_deserialize`).
-/

namespace BindingSync

open BindingSync.Text

namespace Document

open Json (Readable)

/-! ### Short databases -/

/-- The integers of the database are short, and its functions are readable. -/
structure Short (db : Database) : Prop where
  imageBase : ∀ imageBase ∈ db.imageBase, Integer.isWritable imageBase = true
  pointerSize : Integer.isWritable db.pointerSize = true
  integerSize : Integer.isWritable db.integerSize = true
  types : ∀ type ∈ db.userTypes, Integer.isWritable type.length = true
  functions : ∀ function ∈ db.functions.toList, Readable (ofFunction function)

namespace Short

variable {db : Database}

/-- A category has no integer. -/
lemma createCategory (h : Short db) (category : List WideString) :
    Short (db.createCategory category) :=
  ⟨h.imageBase, h.pointerSize, h.integerSize, h.types, h.functions⟩

/-- A type with a short length may be added. -/
lemma addType (h : Short db) {type : NamedType}
    (hshort : Integer.isWritable type.length = true) : Short (db.addType type) := by
  refine ⟨h.imageBase, h.pointerSize, h.integerSize, fun other hmem => ?_, h.functions⟩
  rcases List.mem_append.1 hmem with hmem | hmem
  · exact h.types other hmem
  · rwa [List.mem_singleton.1 hmem]

/-- A namespace has no integer. -/
lemma addNamespace (h : Short db) (added : Namespace) : Short (db.addNamespace added) :=
  ⟨h.imageBase, h.pointerSize, h.integerSize, h.types, h.functions⟩

/-- A readable function may be put. -/
lemma putFunction (h : Short db) {function : FunctionRecord}
    (hreadable : Readable (ofFunction function)) : Short (db.putFunction function) := by
  refine ⟨h.imageBase, h.pointerSize, h.integerSize, h.types, fun other hmem => ?_⟩
  rcases Keyed.mem_toList_insert hmem with rfl | hmem
  · exact hreadable
  · exact h.functions other hmem

end Short

/-- The document of a sound database whose parts are short is readable. -/
lemma readable_ofDatabase {db : Database} (h : db.Sound) (hshort : Short db) :
    Readable (ofDatabase db) := by
  refine readable_object ["v", "image-base", "pointer-size", "integer-size", "categories", "types",
    "namespaces", "functions"] rfl ?_
  simp only [List.map_cons, List.map_nil, List.forall_mem_cons]
  refine ⟨.string (by simp), ?_, .int hshort.pointerSize, .int hshort.integerSize, .array ?_,
    .array ?_, .array ?_, .array ?_, by simp⟩
  · cases himage : db.imageBase with
    | none => exact .array (by simp)
    | some imageBase => exact .int (hshort.imageBase imageBase himage)
  · exact List.forall_mem_map.2 fun category hmem =>
      readable_ofSegments (h.categories category hmem).1
  · exact List.forall_mem_map.2 fun type hmem =>
      readable_ofType_named (h.types.of_mem type hmem).1 (hshort.types type hmem)
  · refine List.forall_mem_map.2 fun entry hmem => ?_
    refine readable_object ["path", "class"] rfl ?_
    simp only [List.map_cons, List.map_nil, List.forall_mem_cons]
    exact ⟨readable_ofSegments (h.namespaces.of_mem entry hmem).1, .bool _, by simp⟩
  · exact List.forall_mem_map.2 hshort.functions

/-- Reading a type adds a type that can be stored at a free place. -/
lemma added_of_addType? {db db' : Database} {entry : Json} (hreadable : Readable entry)
    (h : addType? db entry = some db') :
    ∃ type, type.Storable ∧ Integer.isWritable type.length = true ∧
      db.typeAt? type.path = none ∧ db' = db.addType type := by
  obtain ⟨found, hfound, h⟩ := Option.bind_eq_some_iff.1 h
  rcases toType?_cases hfound with ⟨builtin, -, rfl⟩ | ⟨_, target, _, length, -, -, -, -, rfl⟩ |
    ⟨kind, type, htype, rfl⟩
  · cases h
  · cases h
  · obtain ⟨hstorable, hshort⟩ := storable_of_toNamedType? hreadable htype
    obtain ⟨hfree, rfl⟩ := Database.eq_addType_of_createType (eq_ok_of_toOption h)
    exact ⟨type, hstorable, hshort, hfree, rfl⟩

/-- Reading a namespace adds one behind the namespace around it. -/
lemma added_of_addNamespace? {db db' : Database} {entry : Json} (hreadable : Readable entry)
    (h : addNamespace? db entry = some db') :
    ∃ added : Namespace, IsJoinedPath added.path ∧ added.path ≠ [] ∧
      db.namespaceAt? added.path = none ∧
      (added.path.dropLast = [] ∨ (db.namespaceAt? added.path.dropLast).isSome) ∧
      db' = db.addNamespace added := by
  obtain ⟨pathValue, hpathValue, h⟩ := Option.bind_eq_some_iff.1 h
  obtain ⟨path, hpath, h⟩ := Option.bind_eq_some_iff.1 h
  obtain ⟨classValue, -, h⟩ := Option.bind_eq_some_iff.1 h
  simp only at h
  split at h
  · cases h
  · next hplace =>
    have hjoined := isJoinedPath_of_toSegments? (readable_field? hreadable hpathValue) hpath
    obtain ⟨hfree, rfl⟩ := Database.eq_addNamespace_of_createNamespace (eq_ok_of_toOption h)
    rw [Bool.not_eq_true, Bool.or_eq_false_iff, Bool.not_eq_false', Bool.or_eq_true,
      List.isEmpty_iff] at hplace
    exact ⟨⟨path, classValue.isTruthy⟩, hjoined, by simpa using hplace.1, hfree, hplace.2, rfl⟩

/-- Reading a function puts one whose namespace is known. -/
lemma put_of_addFunction? {db db' : Database} {entry : Json} (hreadable : Readable entry)
    (h : addFunction? db entry = some db') :
    ∃ function : FunctionRecord, function.Storable ∧
      (∀ path ∈ function.namespacePath, (db.namespaceAt? path).isSome) ∧
      Readable (ofFunction function) ∧ db' = db.putFunction function := by
  obtain ⟨function, hfunction, h⟩ := Option.bind_eq_some_iff.1 h
  cases h
  obtain ⟨hstorable, hscope, hread⟩ := storable_of_toFunction? hreadable hfunction
  exact ⟨function, hstorable, hscope, hread, rfl⟩

/-- The database may have been read: it is sound and short. -/
structure Loaded (db : Database) : Prop where
  sound : db.Sound
  short : Short db

/-- Reading the categories of a document. -/
lemma loaded_of_categories {entries : List Json} {before after : Database}
    (hreadable : ∀ entry ∈ entries, Readable entry) (hbefore : Loaded before)
    (h : entries.foldlM addCategory? before = some after) : Loaded after := by
  refine foldlM_invariant h hbefore fun entry hmem db db' hdb hstep => ?_
  obtain ⟨category, hcategory, heq⟩ := Option.bind_eq_some_iff.1 hstep
  cases heq
  exact ⟨hdb.sound.createCategory (isJoinedPath_of_toSegments? (hreadable entry hmem) hcategory),
    hdb.short.createCategory category⟩

/-- Reading the types of a document. -/
lemma loaded_of_types {entries : List Json} {before after : Database}
    (hreadable : ∀ entry ∈ entries, Readable entry) (hbefore : Loaded before)
    (h : entries.foldlM addType? before = some after) : Loaded after := by
  refine foldlM_invariant h hbefore fun entry hmem db db' hdb hstep => ?_
  obtain ⟨type, hstorable, hshort, hfree, rfl⟩ := added_of_addType? (hreadable entry hmem) hstep
  exact ⟨hdb.sound.addType hstorable hfree, hdb.short.addType hshort⟩

/-- Reading the namespaces of a document. -/
lemma loaded_of_namespaces {entries : List Json} {before after : Database}
    (hreadable : ∀ entry ∈ entries, Readable entry) (hbefore : Loaded before)
    (h : entries.foldlM addNamespace? before = some after) : Loaded after := by
  refine foldlM_invariant h hbefore fun entry hmem db db' hdb hstep => ?_
  obtain ⟨added, hjoined, hne, hfree, hparent, rfl⟩ :=
    added_of_addNamespace? (hreadable entry hmem) hstep
  exact ⟨hdb.sound.addNamespace hjoined hne hfree hparent, hdb.short.addNamespace added⟩

/-- Reading the functions of a document. -/
lemma loaded_of_functions {entries : List Json} {before after : Database}
    (hreadable : ∀ entry ∈ entries, Readable entry) (hbefore : Loaded before)
    (h : entries.foldlM addFunction? before = some after) : Loaded after := by
  refine foldlM_invariant h hbefore fun entry hmem db db' hdb hstep => ?_
  obtain ⟨function, hstorable, hscope, hread, rfl⟩ :=
    put_of_addFunction? (hreadable entry hmem) hstep
  exact ⟨hdb.sound.putFunction hstorable hscope, hdb.short.putFunction hread⟩

/-- The image base that was read is short, if there is one. -/
lemma isWritable_of_toImageBase? {value : Json} {imageBase : Option Int}
    (hreadable : Readable value) (h : toImageBase? value = some imageBase) :
    ∀ base ∈ imageBase, Integer.isWritable base = true := by
  unfold toImageBase? at h
  split at h
  · cases h
    simp
  · obtain ⟨base, hbase, rfl⟩ := Option.map_eq_some_iff.1 h
    simpa using isWritable_of_toInt? hreadable hbase

/-- The database of a document is sound and short. -/
theorem loaded_of_toDatabase? {document : Json} {db : Database} (hreadable : Readable document)
    (h : toDatabase? document = some db) : Loaded db := by
  obtain ⟨imageValue, himageValue, h⟩ := Option.bind_eq_some_iff.1 h
  obtain ⟨imageBase, himageBase, h⟩ := Option.bind_eq_some_iff.1 h
  obtain ⟨pointerValue, hpointerValue, h⟩ := Option.bind_eq_some_iff.1 h
  obtain ⟨pointerSize, hpointerSize, h⟩ := Option.bind_eq_some_iff.1 h
  obtain ⟨integerValue, hintegerValue, h⟩ := Option.bind_eq_some_iff.1 h
  obtain ⟨integerSize, hintegerSize, h⟩ := Option.bind_eq_some_iff.1 h
  obtain ⟨categories, hcategories, h⟩ := Option.bind_eq_some_iff.1 h
  obtain ⟨categorized, hcategorized, h⟩ := Option.bind_eq_some_iff.1 h
  obtain ⟨types, htypes, h⟩ := Option.bind_eq_some_iff.1 h
  obtain ⟨typed, htyped, h⟩ := Option.bind_eq_some_iff.1 h
  obtain ⟨namespaces, hnamespaces, h⟩ := Option.bind_eq_some_iff.1 h
  obtain ⟨named, hnamed, h⟩ := Option.bind_eq_some_iff.1 h
  obtain ⟨functions, hfunctions, h⟩ := Option.bind_eq_some_iff.1 h
  have hnew : Loaded { imageBase, pointerSize, integerSize } :=
    ⟨Database.sound_new imageBase pointerSize integerSize,
      isWritable_of_toImageBase? (readable_field? hreadable himageValue) himageBase,
      isWritable_of_toInt? (readable_field? hreadable hpointerValue) hpointerSize,
      isWritable_of_toInt? (readable_field? hreadable hintegerValue) hintegerSize, by simp, by simp⟩
  have hfirst := loaded_of_categories (readable_optionalMembers? hreadable hcategories) hnew
    hcategorized
  have hsecond := loaded_of_types (readable_optionalMembers? hreadable htypes) hfirst htyped
  have hthird := loaded_of_namespaces (readable_optionalMembers? hreadable hnamespaces) hsecond
    hnamed
  exact loaded_of_functions (readable_optionalMembers? hreadable hfunctions) hthird h

end Document

namespace Database

open Document
open Json (Readable)

/-- A database that is loaded has the document of its text. -/
lemma exists_of_deserialize {text : String} {db : Database} (h : deserialize text = .ok db) :
    ∃ document, Json.parse text = .ok document ∧ toDatabase? document = some db := by
  unfold deserialize at h
  split at h
  · next document hparse =>
    refine ⟨document, hparse, ?_⟩
    unfold ofDocument at h
    split at h
    · simp only at h
      split at h
      · split at h
        · next found hfound =>
          cases h
          exact hfound
        · cases h
      · cases h
    · cases h
  · cases h

/-- A database that is loaded is sound, and its document is readable. -/
lemma sound_and_readable_of_deserialize {text : String} {db : Database}
    (h : deserialize text = .ok db) : db.Sound ∧ Readable (ofDatabase db) := by
  obtain ⟨document, hparse, hdatabase⟩ := exists_of_deserialize h
  have hloaded := loaded_of_toDatabase? (Json.readable_of_parse hparse) hdatabase
  exact ⟨hloaded.sound, readable_ofDatabase hloaded.sound hloaded.short⟩

/-- A database that is loaded is sound. -/
theorem sound_of_deserialize {text : String} {db : Database} (h : deserialize text = .ok db) :
    db.Sound :=
  (sound_and_readable_of_deserialize h).1

/-- The document of a database that is loaded is readable. -/
theorem readable_of_deserialize {text : String} {db : Database} (h : deserialize text = .ok db) :
    Readable (ofDatabase db) :=
  (sound_and_readable_of_deserialize h).2

end Database

end BindingSync
