import BindingSync.Database.Document
import BindingSync.Proofs.Fallible
import BindingSync.Proofs.Json.Values

/-!
# What can be stored

The document of a database keeps everything about its types and functions, provided that they
are `Storable`: their names are joined strings, and a builtin type, which is stored by its name
alone, is one of those that every database has.  A storable entry is given back from its document
(`Document.toType?_ofType`, `Document.toFunction?_ofFunction`), and its document is faithful, so
that nothing is lost in the text of the document either.
-/

namespace BindingSync

open BindingSync.Text

/-! ### Storable entries -/

/-- Every segment of the path is joined. -/
def IsJoinedPath (segments : List WideString) : Prop :=
  ∀ segment ∈ segments, segment.IsJoined

/-- The names of the type are joined. -/
structure NamedType.Storable (type : NamedType) : Prop where
  category : IsJoinedPath type.path.category
  name : type.path.name.IsJoined

/-- The type is made of types that can be stored. -/
inductive DataType.Storable : DataType → Prop
  | builtin {type : Builtin} (h : type ∈ Builtin.all) : Storable (.builtin type)
  | named {type : NamedType} (h : type.Storable) : Storable (.named type)
  | pointer {target : DataType} (h : Storable target) (length : Int) :
      Storable (.pointer target length)

/-- The name of a register is joined. -/
inductive Storage.Storable : Storage → Prop
  | register {name : WideString} (h : name.IsJoined) : Storable (.register name)
  | stack (offset size : Int) : Storable (.stack offset size)

/-- The parameter can be stored with its type and its storage. -/
structure Parameter.Storable (param : Parameter) : Prop where
  name : ∀ name ∈ param.name, name.IsJoined
  type : param.type.Storable
  storage : ∀ storage ∈ param.storage, storage.Storable

/-- The function can be stored with its signature. -/
structure FunctionRecord.Storable (function : FunctionRecord) : Prop where
  name : function.name.IsJoined
  namespacePath : ∀ path ∈ function.namespacePath, IsJoinedPath path
  convention : ∀ convention ∈ function.convention, convention.IsJoined
  returnValue : ∀ value ∈ function.returnValue, value.type.Storable
  params : ∀ param ∈ function.params, param.Storable

namespace FunctionRecord.Storable

variable {function : FunctionRecord}

/-- A function may be moved to a namespace with a joined path. -/
lemma inNamespace (h : function.Storable) {path : List WideString} (hjoined : IsJoinedPath path) :
    (function.inNamespace path).Storable := by
  refine { h with namespacePath := fun other hother => ?_ }
  simp only [FunctionRecord.inNamespace] at hother
  split at hother
  · cases hother
  · cases hother
    exact hjoined

/-- A function may get another signature that can be stored. -/
lemma withSignature (h : function.Storable) {convention : Option WideString}
    (hconvention : ∀ name ∈ convention, name.IsJoined) {returnType : Option DataType}
    (hreturn : ∀ type ∈ returnType, type.Storable) {params : List Parameter}
    (hparams : ∀ param ∈ params, param.Storable) (mode : StorageMode) (source : SourceType) :
    (function.withSignature convention returnType params mode source).Storable where
  name := h.name
  namespacePath := h.namespacePath
  convention name hmem := by
    cases convention with
    | none => exact h.convention name hmem
    | some found => exact hconvention name hmem
  returnValue value hmem := by
    cases returnType with
    | none => exact h.returnValue value hmem
    | some type =>
      cases hmem
      exact hreturn type rfl
  params param hmem := by
    cases mode with
    | dynamic =>
      obtain ⟨source, hsource, rfl⟩ := List.mem_map.1 hmem
      exact { hparams source hsource with storage := by simp }
    | custom => exact hparams param hmem

end FunctionRecord.Storable

namespace Document

open Json (Faithful)

/-! ### Fields -/

/-- An object without fields has none to look up. -/
@[simp] lemma field?_nil (key : String) : field? (.object []) key = none := rfl

/-- A field is looked up by its name, from the first field on. -/
lemma field?_cons (name key : String) (value : Json) (fields : List (WideString × Json)) :
    field? (.object ((.plain name, value) :: fields)) key =
      if key = name then some value else field? (.object fields) key := by
  rw [field?, List.lookup_cons]
  by_cases h : key = name
  · simp [h]
  · have hne : (WideString.plain key == WideString.plain name) = false := by
      rw [beq_eq_false_iff_ne]
      exact fun e => h (WideString.plain.inj e)
    rw [hne, if_neg h]
    rfl

/-- An object whose fields have different plain names is faithful if its values are. -/
lemma faithful_object (names : List String) {fields : List (WideString × Json)}
    (hnames : fields.map Prod.fst = names.map .plain) (hnodup : names.Nodup)
    (hvalues : ∀ value ∈ fields.map Prod.snd, Faithful value) : Faithful (.object fields) := by
  refine .object ?_ ?_ hvalues
  · rw [hnames]
    exact List.Pairwise.map WideString.plain (fun _ _ hne h => hne (WideString.plain.inj h)) hnodup
  · rw [hnames]
    exact List.forall_mem_map.2 fun name _ => WideString.isJoined_plain name

/-! ### Texts and paths -/

/-- A path is given back. -/
@[simp] lemma toSegments?_ofSegments (path : List WideString) :
    toSegments? (ofSegments path) = some path :=
  mapM_map_eq_some fun _ _ => rfl

/-- A path of joined segments loses nothing. -/
lemma faithful_ofSegments {path : List WideString} (h : IsJoinedPath path) :
    Faithful (ofSegments path) :=
  .array (List.forall_mem_map.2 fun segment hmem => .string (h segment hmem))

/-- An optional text is given back. -/
@[simp] lemma toOptionalText?_ofText? (text : Option WideString) :
    toOptionalText? (ofText? text) = some text := by
  cases text <;> rfl

/-- An optional text that is joined loses nothing. -/
lemma faithful_ofText? {text : Option WideString} (h : ∀ value ∈ text, value.IsJoined) :
    Faithful (ofText? text) := by
  cases text with
  | none => exact .null
  | some value => exact .string (h value rfl)

/-- A source is given back. -/
@[simp] lemma toSource?_ofSource (source : SourceType) :
    toSource? (ofSource source) = some source := by
  cases source <;> rfl

/-- A storage mode is given back. -/
@[simp] lemma toMode?_ofMode (mode : StorageMode) : toMode? (ofMode mode) = some mode := by
  cases mode <;> rfl

/-! ### Types -/

/-- A builtin type that every database has is found by its name. -/
lemma ofName?_name {type : Builtin} (h : type ∈ Builtin.all) :
    Builtin.ofName? type.name = some type := by
  have hall : ∀ type ∈ Builtin.all, Builtin.ofName? type.name = some type := by decide
  exact hall type h

/-- A defined type is given back. -/
lemma toNamedType?_ofType (type : NamedType) :
    toNamedType? type.kind (ofType (.named type)) = some type := by
  simp [toNamedType?, ofType, field?_cons, toText?, toInt?]

/-- The entry of a pointer is read from that of its target. -/
lemma toType?_pointer {entry target : Json} (hkind : field? entry "kind" = some (.string "pointer"))
    (htarget : field? entry "target" = some target) :
    toType? entry = do
      return .pointer (← toType? target) (← toInt? (← field? entry "length")) := by
  rw [toType?, hkind]
  simp only
  split
  · next target' heq =>
    obtain rfl : target' = target := Option.some.inj (heq.symm.trans htarget)
    rfl
  · next heq =>
    rw [heq] at htarget
    cases htarget

/-- A type that can be stored is given back. -/
theorem toType?_ofType {type : DataType} (h : type.Storable) :
    toType? (ofType type) = some type := by
  induction h with
  | @builtin type h =>
    rw [toType?, ofType]
    simp [field?_cons, toText?, ofName?_name h]
  | @named type _ =>
    have hnamed := toNamedType?_ofType type
    cases hkind : type.kind with
    | enum =>
      have hfield : field? (ofType (.named type)) "kind" = some (.string "enum") := by
        simp [ofType, field?_cons, hkind]
      rw [hkind] at hnamed
      rw [toType?, hfield]
      simp [hnamed]
    | struct =>
      have hfield : field? (ofType (.named type)) "kind" = some (.string "struct") := by
        simp [ofType, field?_cons, hkind]
      rw [hkind] at hnamed
      rw [toType?, hfield]
      simp [hnamed]
  | @pointer target _ length ih =>
    have htarget : field? (ofType (.pointer target length)) "target" = some (ofType target) := by
      simp [ofType, field?_cons]
    rw [toType?_pointer (by simp [ofType, field?_cons]) htarget, ih]
    simp [ofType, field?_cons, toInt?]

/-- The entry of a type that can be stored loses nothing. -/
lemma faithful_ofType {type : DataType} (h : type.Storable) : Faithful (ofType type) := by
  induction h with
  | @builtin type _ =>
    refine faithful_object ["kind", "name"] rfl (by decide) ?_
    simp only [List.map_cons, List.map_nil, List.forall_mem_cons, List.not_mem_nil]
    exact ⟨.string (by simp), .string (by simp), by simp⟩
  | @named type h =>
    refine faithful_object ["kind", "category", "name", "length"] rfl (by decide) ?_
    simp only [List.map_cons, List.map_nil, List.forall_mem_cons]
    refine ⟨.string ?_, faithful_ofSegments h.category, .string h.name, .int _, by simp⟩
    split <;> simp
  | pointer _ length ih =>
    refine faithful_object ["kind", "target", "length"] rfl (by decide) ?_
    simp only [List.map_cons, List.map_nil, List.forall_mem_cons]
    exact ⟨.string (by simp), ih, .int _, by simp⟩

/-! ### Signatures -/

/-- A storage is given back. -/
@[simp] lemma toStorage?_ofStorage (storage : Option Storage) :
    toStorage? (ofStorage storage) = some storage := by
  cases storage with
  | none => rfl
  | some storage =>
    cases storage with
    | register name => simp [ofStorage, toStorage?, field?_cons, toText?]
    | stack offset size => simp [ofStorage, toStorage?, field?_cons, toInt?]

/-- A storage that can be stored loses nothing. -/
lemma faithful_ofStorage {storage : Option Storage} (h : ∀ value ∈ storage, value.Storable) :
    Faithful (ofStorage storage) := by
  cases storage with
  | none => exact .null
  | some storage =>
    cases h storage rfl with
    | register hname =>
      refine faithful_object ["register"] rfl (by decide) ?_
      simp only [List.map_cons, List.map_nil, List.forall_mem_cons]
      exact ⟨.string hname, by simp⟩
    | stack offset size =>
      refine faithful_object ["offset", "size"] rfl (by decide) ?_
      simp only [List.map_cons, List.map_nil, List.forall_mem_cons]
      exact ⟨.int _, .int _, by simp⟩

/-- A parameter that can be stored is given back. -/
lemma toParameter?_ofParameter {param : Parameter} (h : param.Storable) :
    toParameter? (ofParameter param) = some param := by
  simp [toParameter?, ofParameter, field?_cons, toType?_ofType h.type]

/-- A parameter that can be stored loses nothing. -/
lemma faithful_ofParameter {param : Parameter} (h : param.Storable) :
    Faithful (ofParameter param) := by
  refine faithful_object ["name", "type", "source", "storage"] rfl (by decide) ?_
  simp only [List.map_cons, List.map_nil, List.forall_mem_cons]
  exact ⟨faithful_ofText? h.name, faithful_ofType h.type, .string (by simp),
    faithful_ofStorage h.storage, by simp⟩

/-- A return value that can be stored is given back. -/
lemma toReturn?_ofReturn {value : Option ReturnValue} (h : ∀ v ∈ value, v.type.Storable) :
    toReturn? (ofReturn value) = some value := by
  cases value with
  | none => rfl
  | some value => simp [toReturn?, ofReturn, field?_cons, toType?_ofType (h value rfl)]

/-- A return value that can be stored loses nothing. -/
lemma faithful_ofReturn {value : Option ReturnValue} (h : ∀ v ∈ value, v.type.Storable) :
    Faithful (ofReturn value) := by
  cases value with
  | none => exact .null
  | some value =>
    refine faithful_object ["type", "source"] rfl (by decide) ?_
    simp only [List.map_cons, List.map_nil, List.forall_mem_cons]
    exact ⟨faithful_ofType (h value rfl), .string (by simp), by simp⟩

/-! ### Functions -/

/-- The path of a known namespace is given back as the scope of a function. -/
lemma toScope?_ofSegments {db : Database} {path : List WideString} (hne : path ≠ [])
    (hknown : (db.namespaceAt? path).isSome) :
    toScope? db (ofSegments path) = some (some path) := by
  have htruthy : (ofSegments path).isTruthy = true := by
    simpa [ofSegments, Json.isTruthy] using hne
  rw [toScope?, if_pos htruthy, toKnownPath?, toSegments?_ofSegments]
  simp [hknown]

/-- A function that can be stored is given back if its namespace is known. -/
theorem toFunction?_ofFunction {db : Database} {function : FunctionRecord}
    (h : function.Storable)
    (hscope : ∀ path ∈ function.namespacePath, path ≠ [] ∧ (db.namespaceAt? path).isSome) :
    toFunction? db (ofFunction function) = some function := by
  have hparams : (function.params.map ofParameter).mapM toParameter? = some function.params :=
    mapM_map_eq_some fun param hmem => toParameter?_ofParameter (h.params param hmem)
  have hreturn := toReturn?_ofReturn h.returnValue
  obtain ⟨address, name, path, convention, returnValue, params, mode⟩ := function
  cases path with
  | none =>
    have hglobal : toScope? db .null = some none := rfl
    simp [toFunction?, ofFunction, field?_cons, toInt?, toText?, hglobal, hreturn,
      optionalMembers?, Json.members?, hparams]
  | some path =>
    have hpath := toScope?_ofSegments (hscope path rfl).1 (hscope path rfl).2
    simp [toFunction?, ofFunction, field?_cons, toInt?, toText?, hpath, hreturn,
      optionalMembers?, Json.members?, hparams]

/-- A function that can be stored loses nothing. -/
lemma faithful_ofFunction {function : FunctionRecord} (h : function.Storable) :
    Faithful (ofFunction function) := by
  refine faithful_object ["address", "name", "namespace", "convention", "return", "params",
    "storage-mode"] rfl (by decide) ?_
  simp only [List.map_cons, List.map_nil, List.forall_mem_cons]
  refine ⟨.int _, .string h.name, ?_, faithful_ofText? h.convention,
    faithful_ofReturn h.returnValue, ?_, .string (by simp), by simp⟩
  · cases hpath : function.namespacePath with
    | none => exact .null
    | some path => exact faithful_ofSegments (h.namespacePath path hpath)
  · exact .array (List.forall_mem_map.2 fun param hmem =>
      faithful_ofParameter (h.params param hmem))

end Document

end BindingSync
