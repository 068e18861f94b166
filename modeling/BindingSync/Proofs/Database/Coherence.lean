import BindingSync.Proofs.Database.Sound

/-!
# Coherent databases

The tables of a database refer to one another.  A function names its namespace, a namespace the
one around it, a type its category, and a signature holds whole types.  In a coherent database
(`Database.Coherent`) no reference leads nowhere: what is stored is found under its own key, what
is named is there, and the types in signatures are those that the database stores.

That the tables fit each other follows from soundness, which says in which order they were filled
(`Database.coherent_of_sound`).  The types in signatures are a matter of their own: they are
copies, and soundness does not compare them with the originals.
-/

namespace BindingSync

open BindingSync.Text

/-! ### Types in signatures -/

/-- Behind its pointers, the type is what the database stores at its place. -/
def DataType.IsStoredIn (db : Database) : DataType → Prop
  | .builtin type => db.typeAt? type.path = some (.builtin type)
  | .named type => db.typeAt? type.path = some (.named type)
  | .pointer target _ => target.IsStoredIn db

/-- The types in the signature of the function are stored. -/
structure FunctionRecord.HasStoredTypes (db : Database) (function : FunctionRecord) : Prop where
  returnValue : ∀ value ∈ function.returnValue, value.type.IsStoredIn db
  params : ∀ param ∈ function.params, param.type.IsStoredIn db

/-- The types in all signatures are stored. -/
def Database.HasStoredSignatures (db : Database) : Prop :=
  ∀ function ∈ db.functions.toList, function.HasStoredTypes db

namespace Database

/-- A type stands at its own place. -/
lemma path?_of_typeAt? {db : Database} {path : TypePath} {type : DataType}
    (h : db.typeAt? path = some type) : type.path? = some path := by
  unfold typeAt? at h
  split at h
  · next builtin hbuiltin =>
    cases h
    unfold Builtin.ofPath? at hbuiltin
    split at hbuiltin
    · next hroot =>
      have hname := List.find?_some hbuiltin
      obtain ⟨category, name⟩ := path
      simp only [decide_eq_true_eq] at hname
      subst hroot hname
      rfl
    · cases hbuiltin
  · obtain ⟨named, hnamed, rfl⟩ := Option.map_eq_some_iff.1 h
    have hpath := List.find?_some hnamed
    simpa [DataType.path?] using hpath

/-- What a database stores somewhere, it stores. -/
lemma isStoredIn_of_typeAt? {db : Database} {path : TypePath} {type : DataType}
    (h : db.typeAt? path = some type) : type.IsStoredIn db := by
  have hpath := path?_of_typeAt? h
  cases type with
  | builtin type =>
    cases hpath
    exact h
  | named type =>
    cases hpath
    exact h
  | pointer target length => cases hpath

/-- Pointers to a stored type have a stored type behind them. -/
lemma isStoredIn_indirect {db : Database} {type : DataType} (h : type.IsStoredIn db)
    (length : Int) (depth : Nat) : (type.indirect length depth).IsStoredIn db := by
  induction depth with
  | zero => exact h
  | succ depth ih => exact ih

/-- A stored type stays stored while the database grows. -/
lemma Grows.isStoredIn {db db' : Database} (h : db.Grows db') {type : DataType}
    (hstored : type.IsStoredIn db) : type.IsStoredIn db' := by
  induction type with
  | builtin type => exact h.typeAt? hstored
  | named type => exact h.typeAt? hstored
  | pointer target length ih => exact ih hstored

end Database

namespace FunctionRecord.HasStoredTypes

variable {db db' : Database} {function : FunctionRecord}

/-- Stored types stay stored while the database grows. -/
lemma of_grows (h : function.HasStoredTypes db) (hgrows : db.Grows db') :
    function.HasStoredTypes db' where
  returnValue value hvalue := hgrows.isStoredIn (h.returnValue value hvalue)
  params param hparam := hgrows.isStoredIn (h.params param hparam)

/-- A function may get another signature of stored types. -/
lemma withSignature (h : function.HasStoredTypes db) (convention : Option WideString)
    {returnType : Option DataType} (hreturn : ∀ type ∈ returnType, type.IsStoredIn db)
    {params : List Parameter} (hparams : ∀ param ∈ params, param.type.IsStoredIn db)
    (mode : StorageMode) (source : SourceType) :
    (function.withSignature convention returnType params mode source).HasStoredTypes db where
  returnValue := by
    cases returnType with
    | none => exact h.returnValue
    | some type => simpa [FunctionRecord.withSignature] using hreturn
  params := by
    cases mode with
    | dynamic => simpa [FunctionRecord.withSignature] using hparams
    | custom => exact hparams

end FunctionRecord.HasStoredTypes

namespace Database

namespace HasStoredSignatures

variable {db db' : Database}

/-- Signatures stay stored where every function is as it was. -/
lemma of_functions (h : db.HasStoredSignatures) (hgrows : db.Grows db')
    (hfunctions : db'.functions = db.functions) : db'.HasStoredSignatures :=
  fun function hmem => (h function (hfunctions ▸ hmem)).of_grows hgrows

/-- Putting a function with stored types keeps all signatures stored. -/
lemma putFunction (h : db.HasStoredSignatures) {function : FunctionRecord}
    (hfunction : function.HasStoredTypes db) : (db.putFunction function).HasStoredSignatures := by
  intro other hmem
  refine FunctionRecord.HasStoredTypes.of_grows ?_ (db.grows_putFunction function)
  rcases Keyed.mem_toList_insert hmem with rfl | hmem
  · exact hfunction
  · exact h other hmem

end HasStoredSignatures

/-! ### Coherence -/

/-- What is stored is found under its own key, and every reference leads to something stored. -/
structure Coherent (db : Database) : Prop where
  functions : ∀ function ∈ db.functions.toList,
    db.functionAt? function.address = some function
  /-- The namespace of a function is there. -/
  scopes : ∀ function ∈ db.functions.toList, ∀ path ∈ function.namespacePath,
    ∃ entry ∈ db.namespaces, db.namespaceAt? path = some entry ∧ entry.path = path
  namespaces : ∀ entry ∈ db.namespaces, db.namespaceAt? entry.path = some entry
  /-- The namespace around one that is not at the root is there. -/
  parents : ∀ entry ∈ db.namespaces, entry.path.dropLast ≠ [] →
    ∃ parent ∈ db.namespaces, db.namespaceAt? entry.path.dropLast = some parent ∧
      parent.path = entry.path.dropLast
  root : db.hasCategory [] = true
  /-- With a category all categories around it are there. -/
  categories : ∀ category, db.hasCategory category = true →
    ∀ around, around <+: category → db.hasCategory around = true
  /-- Builtin types and defined ones are found at their own places and nowhere else. -/
  types : ∀ path type, db.typeAt? path = some type → type.path? = some path
  userTypes : ∀ type ∈ db.userTypes, db.typeAt? type.path = some (.named type)
  typeCategories : ∀ path type, db.typeAt? path = some type → db.hasCategory path.category = true
  signatures : db.HasStoredSignatures

/-- A category is there if it is known with all categories around it. -/
lemma KnowsCategory.hasCategory {db : Database} {category : List WideString}
    (h : db.KnowsCategory category) : db.hasCategory category = true := by
  rw [Database.hasCategory, Bool.or_eq_true, List.isEmpty_iff]
  by_cases hroot : category = []
  · exact .inl hroot
  · exact .inr (h category (mem_beginnings_nil_iff.2 ⟨hroot, List.prefix_rfl⟩))

namespace Sound

variable {db : Database}

/-- A namespace is found under its own path. -/
lemma namespaceAt?_of_mem (h : db.Sound) {entry : Namespace} (hmem : entry ∈ db.namespaces) :
    db.namespaceAt? entry.path = some entry :=
  (find?_key_eq_some_iff h.namespaces.nodup).2 ⟨hmem, rfl⟩

/-- A namespace that is there is found. -/
lemma exists_namespace (h : db.Sound) {path : List WideString}
    (hknown : (db.namespaceAt? path).isSome) :
    ∃ entry ∈ db.namespaces, db.namespaceAt? path = some entry ∧ entry.path = path := by
  obtain ⟨entry, hmem, rfl⟩ := isSome_namespaceAt?_iff.1 hknown
  exact ⟨entry, hmem, h.namespaceAt?_of_mem hmem, rfl⟩

/-- A defined type is found at its own place. -/
lemma typeAt?_of_mem (h : db.Sound) {type : NamedType} (hmem : type ∈ db.userTypes) :
    db.typeAt? type.path = some (.named type) := by
  rw [typeAt?, (h.types.of_mem type hmem).2, userTypeAt?,
    (find?_key_eq_some_iff h.types.nodup).2 ⟨hmem, rfl⟩]
  rfl

/-- With a category all categories around it are known. -/
lemma knowsCategory (h : db.Sound) {category : List WideString}
    (hcategory : db.hasCategory category = true) : db.KnowsCategory category := by
  rw [hasCategory, Bool.or_eq_true, List.isEmpty_iff, Keyed.contains_iff_mem] at hcategory
  rcases hcategory with rfl | hmem
  · simp [KnowsCategory, beginnings]
  · exact (h.categories category hmem).2.2

/-- The category of a type is there. -/
lemma hasCategory_of_typeAt? (h : db.Sound) {path : TypePath} {type : DataType}
    (htype : db.typeAt? path = some type) : db.hasCategory path.category = true := by
  have hpath := path?_of_typeAt? htype
  unfold typeAt? at htype
  split at htype
  · cases htype
    cases hpath
    rfl
  · obtain ⟨named, hnamed, rfl⟩ := Option.map_eq_some_iff.1 htype
    cases hpath
    exact (h.typeCategories named (List.mem_of_find?_eq_some hnamed)).hasCategory

end Sound

/-- A sound database is coherent if the types in its signatures are stored. -/
theorem coherent_of_sound {db : Database} (h : db.Sound) (hsignatures : db.HasStoredSignatures) :
    db.Coherent where
  functions _ hmem := Keyed.get?_eq_some_iff.2 ⟨hmem, rfl⟩
  scopes function hmem path hpath := h.exists_namespace ((h.functions function hmem).2 path hpath)
  namespaces _ hmem := h.namespaceAt?_of_mem hmem
  parents entry hmem hroot := by
    have hparent := (h.namespaces.of_mem entry hmem).2.2.resolve_left hroot
    exact h.exists_namespace (isSome_namespaceAt?_iff.2 hparent)
  root := rfl
  categories _ hcategory _ hprefix :=
    ((h.knowsCategory hcategory).of_beginning hprefix).hasCategory
  types _ _ := path?_of_typeAt?
  userTypes _ hmem := h.typeAt?_of_mem hmem
  typeCategories _ _ := h.hasCategory_of_typeAt?
  signatures := hsignatures

end Database

end BindingSync
