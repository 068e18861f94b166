import BindingSync.Proofs.Database.Restoring

/-!
# Entries that were read

The reader gives joined strings and short integers only, so what the entries of a document say
can be stored, and the document that is written for it is readable again
(`Document.storable_of_toFunction?`).
-/

namespace BindingSync

open BindingSync.Text

namespace Document

open Json (Readable)

/-! ### Parts of entries -/

/-- The value of a field is one of the fields. -/
lemma exists_of_field? {entry value : Json} {key : String} (h : field? entry key = some value) :
    ∃ fields, entry = .object fields ∧ (.plain key, value) ∈ fields := by
  unfold field? at h
  split at h
  · next fields =>
    obtain ⟨front, behind, rfl, -⟩ := List.lookup_eq_some_iff.1 h
    exact ⟨_, rfl, by simp⟩
  · cases h

/-- A field of a readable entry is readable. -/
lemma readable_field? {entry value : Json} {key : String} (hreadable : Readable entry)
    (h : field? entry key = some value) : Readable value := by
  obtain ⟨fields, rfl, hmem⟩ := exists_of_field? h
  cases hreadable with
  | object _ hvalues => exact hvalues value (List.mem_map.2 ⟨_, hmem, rfl⟩)

/-- A field that may be missing is readable if its default is. -/
lemma readable_fieldOr {entry default : Json} (hreadable : Readable entry) (key : String)
    (hdefault : Readable default) : Readable ((field? entry key).getD default) := by
  cases hfield : field? entry key with
  | none => exact hdefault
  | some value => exact readable_field? hreadable hfield

/-- The members of a readable value are readable; those that are no items are strings. -/
lemma readable_members? {value : Json} {items : List Json} (hreadable : Readable value)
    (h : value.members? = some items) : ∀ item ∈ items, Readable item := by
  cases hreadable with
  | null => cases h
  | bool _ => cases h
  | int _ => cases h
  | float _ => cases h
  | string _ =>
    cases h
    exact List.forall_mem_map.2 fun point _ => .string (WideString.isJoined_single point)
  | array hitems =>
    cases h
    exact hitems
  | object hjoined _ =>
    cases h
    exact List.forall_mem_map.2 fun field hmem => .string (hjoined _ (List.mem_map_of_mem hmem))

/-- The members in a field that may be missing are readable. -/
lemma readable_optionalMembers? {entry : Json} {key : String} {items : List Json}
    (hreadable : Readable entry) (h : optionalMembers? entry key = some items) :
    ∀ item ∈ items, Readable item := by
  unfold optionalMembers? at h
  split at h
  · cases h
    simp
  · next value hvalue => exact readable_members? (readable_field? hreadable hvalue) h

/-! ### Texts, integers and paths -/

/-- A text that was read is joined. -/
lemma isJoined_of_toText? {value : Json} {text : WideString} (hreadable : Readable value)
    (h : toText? value = some text) : text.IsJoined := by
  cases hreadable with
  | string hjoined =>
    cases h
    exact hjoined
  | _ => cases h

/-- An optional text that was read is joined. -/
lemma isJoined_of_toOptionalText? {value : Json} {text : Option WideString}
    (hreadable : Readable value) (h : toOptionalText? value = some text) :
    ∀ t ∈ text, t.IsJoined := by
  unfold toOptionalText? at h
  split at h
  · cases h
    simp
  · obtain ⟨found, hfound, rfl⟩ := Option.map_eq_some_iff.1 h
    simpa using isJoined_of_toText? hreadable hfound

/-- An integer that was read is short. -/
lemma isWritable_of_toInt? {value : Json} {n : Int} (hreadable : Readable value)
    (h : toInt? value = some n) : Integer.isWritable n = true := by
  cases hreadable with
  | int hshort =>
    cases h
    exact hshort
  | _ => cases h

/-- A path that was read is joined. -/
lemma isJoinedPath_of_toSegments? {value : Json} {path : List WideString}
    (hreadable : Readable value) (h : toSegments? value = some path) : IsJoinedPath path := by
  obtain ⟨items, hitems, hpath⟩ := Option.bind_eq_some_iff.1 h
  intro segment hmem
  obtain ⟨item, hitem, hsegment⟩ := exists_of_mapM_eq_some hpath segment hmem
  exact isJoined_of_toText? (readable_members? hreadable hitems item hitem) hsegment

/-- A joined path is readable. -/
lemma readable_ofSegments {path : List WideString} (h : IsJoinedPath path) :
    Readable (ofSegments path) :=
  .array (List.forall_mem_map.2 fun segment hmem => .string (h segment hmem))

/-- A joined text is readable, and so is none. -/
lemma readable_ofText? {text : Option WideString} (h : ∀ t ∈ text, t.IsJoined) :
    Readable (ofText? text) := by
  cases text with
  | none => exact .null
  | some text => exact .string (h text rfl)

/-- An object with plain names is readable if its values are. -/
lemma readable_object (names : List String) {fields : List (WideString × Json)}
    (hnames : fields.map Prod.fst = names.map .plain)
    (hvalues : ∀ value ∈ fields.map Prod.snd, Readable value) :
    Readable (.object fields) := by
  refine .object ?_ hvalues
  rw [hnames]
  exact List.forall_mem_map.2 fun name _ => WideString.isJoined_plain name

/-! ### Types -/

/-- A type that was read is builtin, a pointer to a type that was read, or defined by its entry. -/
lemma toType?_cases {entry : Json} {type : DataType} (h : toType? entry = some type) :
    (∃ builtin ∈ Builtin.all, type = .builtin builtin) ∨
      (∃ inner target value length, field? entry "target" = some inner ∧
        toType? inner = some target ∧ field? entry "length" = some value ∧
        toInt? value = some length ∧ type = .pointer target length) ∨
      ∃ kind named, toNamedType? kind entry = some named ∧ type = .named named := by
  rw [toType?] at h
  split at h
  · obtain ⟨value, -, h⟩ := Option.bind_eq_some_iff.1 h
    obtain ⟨name, -, h⟩ := Option.bind_eq_some_iff.1 h
    obtain ⟨builtin, hbuiltin, h⟩ := Option.bind_eq_some_iff.1 h
    cases h
    exact .inl ⟨builtin, List.mem_of_find?_eq_some hbuiltin, rfl⟩
  · split at h
    · next inner hinner =>
      obtain ⟨target, htarget, h⟩ := Option.bind_eq_some_iff.1 h
      obtain ⟨value, hvalue, h⟩ := Option.bind_eq_some_iff.1 h
      obtain ⟨length, hlength, h⟩ := Option.bind_eq_some_iff.1 h
      cases h
      exact .inr (.inl ⟨inner, target, value, length, hinner, htarget, hvalue, hlength, rfl⟩)
    · cases h
  · obtain ⟨named, hnamed, rfl⟩ := Option.map_eq_some_iff.1 h
    exact .inr (.inr ⟨_, named, hnamed, rfl⟩)
  · obtain ⟨named, hnamed, rfl⟩ := Option.map_eq_some_iff.1 h
    exact .inr (.inr ⟨_, named, hnamed, rfl⟩)
  · cases h

/-- A defined type that was read can be stored, and its length is short. -/
lemma storable_of_toNamedType? {kind : TypeKind} {entry : Json} {type : NamedType}
    (hreadable : Readable entry) (h : toNamedType? kind entry = some type) :
    type.Storable ∧ Integer.isWritable type.length = true := by
  obtain ⟨category, hcategory, h⟩ := Option.bind_eq_some_iff.1 h
  obtain ⟨segments, hsegments, h⟩ := Option.bind_eq_some_iff.1 h
  obtain ⟨name, hname, h⟩ := Option.bind_eq_some_iff.1 h
  obtain ⟨text, htext, h⟩ := Option.bind_eq_some_iff.1 h
  obtain ⟨value, hvalue, h⟩ := Option.bind_eq_some_iff.1 h
  obtain ⟨length, hlength, h⟩ := Option.bind_eq_some_iff.1 h
  cases h
  exact ⟨⟨isJoinedPath_of_toSegments? (readable_field? hreadable hcategory) hsegments,
    isJoined_of_toText? (readable_field? hreadable hname) htext⟩,
    isWritable_of_toInt? (readable_field? hreadable hvalue) hlength⟩

/-- A defined type with a short length is readable. -/
lemma readable_ofType_named {type : NamedType} (h : type.Storable)
    (hshort : Integer.isWritable type.length = true) : Readable (ofType (.named type)) := by
  refine readable_object ["kind", "category", "name", "length"] rfl ?_
  simp only [List.map_cons, List.map_nil, List.forall_mem_cons]
  refine ⟨.string ?_, readable_ofSegments h.category, .string h.name, .int hshort, by simp⟩
  split <;> simp

/-- A type that was read can be stored, and its document is readable. -/
lemma storable_of_toType? {entry : Json} {type : DataType} (hreadable : Readable entry)
    (h : toType? entry = some type) : type.Storable ∧ Readable (ofType type) := by
  induction type generalizing entry with
  | builtin builtin =>
    rcases toType?_cases h with ⟨found, hmem, heq⟩ | ⟨_, _, _, _, _, _, _, _, heq⟩ |
      ⟨_, _, _, heq⟩
    · cases heq
      refine ⟨.builtin hmem, readable_object ["kind", "name"] rfl ?_⟩
      simp only [List.map_cons, List.map_nil, List.forall_mem_cons]
      exact ⟨.string (by simp), .string (by simp), by simp⟩
    · cases heq
    · cases heq
  | named type =>
    rcases toType?_cases h with ⟨_, _, heq⟩ | ⟨_, _, _, _, _, _, _, _, heq⟩ |
      ⟨kind, named, hnamed, heq⟩
    · cases heq
    · cases heq
    · cases heq
      obtain ⟨hstorable, hshort⟩ := storable_of_toNamedType? hreadable hnamed
      exact ⟨.named hstorable, readable_ofType_named hstorable hshort⟩
  | pointer target length ih =>
    rcases toType?_cases h with ⟨_, _, heq⟩ |
      ⟨inner, _, value, _, hinner, htarget, hvalue, hlength, heq⟩ | ⟨_, _, _, heq⟩
    · cases heq
    · cases heq
      obtain ⟨hstorable, hread⟩ := ih (readable_field? hreadable hinner) htarget
      refine ⟨.pointer hstorable length, readable_object ["kind", "target", "length"] rfl ?_⟩
      simp only [List.map_cons, List.map_nil, List.forall_mem_cons]
      exact ⟨.string (by simp), hread,
        .int (isWritable_of_toInt? (readable_field? hreadable hvalue) hlength), by simp⟩
    · cases heq

/-! ### Signatures -/

/-- A source is written as a text. -/
lemma readable_ofSource (source : SourceType) : Readable (ofSource source) :=
  .string (by simp)

/-- A storage that was read can be stored, and its document is readable. -/
lemma storable_of_toStorage? {entry : Json} {storage : Option Storage}
    (hreadable : Readable entry) (h : toStorage? entry = some storage) :
    (∀ s ∈ storage, s.Storable) ∧ Readable (ofStorage storage) := by
  unfold toStorage? at h
  split at h
  · cases h
    exact ⟨by simp, .null⟩
  · split at h
    · next value hvalue =>
      obtain ⟨name, hname, h⟩ := Option.bind_eq_some_iff.1 h
      cases h
      have hjoined := isJoined_of_toText? (readable_field? hreadable hvalue) hname
      refine ⟨by simpa using Storage.Storable.register hjoined, readable_object ["register"] rfl ?_⟩
      simp only [List.map_cons, List.map_nil, List.forall_mem_cons]
      exact ⟨.string hjoined, by simp⟩
    · obtain ⟨first, hfirst, h⟩ := Option.bind_eq_some_iff.1 h
      obtain ⟨offset, hoffset, h⟩ := Option.bind_eq_some_iff.1 h
      obtain ⟨second, hsecond, h⟩ := Option.bind_eq_some_iff.1 h
      obtain ⟨size, hsize, h⟩ := Option.bind_eq_some_iff.1 h
      cases h
      refine ⟨by simpa using Storage.Storable.stack offset size,
        readable_object ["offset", "size"] rfl ?_⟩
      simp only [List.map_cons, List.map_nil, List.forall_mem_cons]
      exact ⟨.int (isWritable_of_toInt? (readable_field? hreadable hfirst) hoffset),
        .int (isWritable_of_toInt? (readable_field? hreadable hsecond) hsize), by simp⟩

/-- A parameter that was read can be stored, and its document is readable. -/
lemma storable_of_toParameter? {entry : Json} {param : Parameter} (hreadable : Readable entry)
    (h : toParameter? entry = some param) :
    param.Storable ∧ Readable (ofParameter param) := by
  obtain ⟨nameValue, hnameValue, h⟩ := Option.bind_eq_some_iff.1 h
  obtain ⟨name, hname, h⟩ := Option.bind_eq_some_iff.1 h
  obtain ⟨typeValue, htypeValue, h⟩ := Option.bind_eq_some_iff.1 h
  obtain ⟨type, htype, h⟩ := Option.bind_eq_some_iff.1 h
  obtain ⟨sourceValue, hsourceValue, h⟩ := Option.bind_eq_some_iff.1 h
  obtain ⟨source, hsource, h⟩ := Option.bind_eq_some_iff.1 h
  obtain ⟨storage, hstorage, h⟩ := Option.bind_eq_some_iff.1 h
  cases h
  have hjoined := isJoined_of_toOptionalText? (readable_field? hreadable hnameValue) hname
  obtain ⟨hstorable, hread⟩ := storable_of_toType? (readable_field? hreadable htypeValue) htype
  obtain ⟨hplace, hplaceRead⟩ := storable_of_toStorage?
    (readable_fieldOr hreadable "storage" .null) hstorage
  refine ⟨⟨hjoined, hstorable, hplace⟩,
    readable_object ["name", "type", "source", "storage"] rfl ?_⟩
  simp only [List.map_cons, List.map_nil, List.forall_mem_cons]
  exact ⟨readable_ofText? hjoined, hread, readable_ofSource source, hplaceRead, by simp⟩

/-- A return value that was read can be stored, and its document is readable. -/
lemma storable_of_toReturn? {entry : Json} {result : Option ReturnValue}
    (hreadable : Readable entry) (h : toReturn? entry = some result) :
    (∀ value ∈ result, value.type.Storable) ∧ Readable (ofReturn result) := by
  unfold toReturn? at h
  split at h
  · cases h
    exact ⟨by simp, .null⟩
  · obtain ⟨typeValue, htypeValue, h⟩ := Option.bind_eq_some_iff.1 h
    obtain ⟨type, htype, h⟩ := Option.bind_eq_some_iff.1 h
    obtain ⟨sourceValue, hsourceValue, h⟩ := Option.bind_eq_some_iff.1 h
    obtain ⟨source, hsource, h⟩ := Option.bind_eq_some_iff.1 h
    cases h
    obtain ⟨hstorable, hread⟩ := storable_of_toType? (readable_field? hreadable htypeValue) htype
    refine ⟨by simpa using hstorable, readable_object ["type", "source"] rfl ?_⟩
    simp only [List.map_cons, List.map_nil, List.forall_mem_cons]
    exact ⟨hread, readable_ofSource source, by simp⟩

/-! ### Functions -/

/-- The scope of a function that was read is known. -/
lemma scope_of_toScope? {db : Database} {value : Json} {scope : Option (List WideString)}
    (hreadable : Readable value) (h : toScope? db value = some scope) :
    ∀ path ∈ scope, IsJoinedPath path ∧ (db.namespaceAt? path).isSome := by
  unfold toScope? at h
  split at h
  · obtain ⟨path, hpath, rfl⟩ := Option.map_eq_some_iff.1 h
    obtain ⟨segments, hsegments, hknown⟩ := Option.bind_eq_some_iff.1 hpath
    split at hknown
    · next hsome =>
      cases hknown
      simpa using ⟨isJoinedPath_of_toSegments? hreadable hsegments, hsome⟩
    · cases hknown
  · cases h
    simp

/-- A function that was read can be stored, its namespace is known, and its document is
readable. -/
lemma storable_of_toFunction? {db : Database} {entry : Json} {function : FunctionRecord}
    (hreadable : Readable entry) (h : toFunction? db entry = some function) :
    function.Storable ∧ (∀ path ∈ function.namespacePath, (db.namespaceAt? path).isSome) ∧
      Readable (ofFunction function) := by
  obtain ⟨addressValue, haddressValue, h⟩ := Option.bind_eq_some_iff.1 h
  obtain ⟨address, haddress, h⟩ := Option.bind_eq_some_iff.1 h
  obtain ⟨nameValue, hnameValue, h⟩ := Option.bind_eq_some_iff.1 h
  obtain ⟨name, hname, h⟩ := Option.bind_eq_some_iff.1 h
  obtain ⟨scope, hscope, h⟩ := Option.bind_eq_some_iff.1 h
  obtain ⟨convention, hconvention, h⟩ := Option.bind_eq_some_iff.1 h
  obtain ⟨result, hresult, h⟩ := Option.bind_eq_some_iff.1 h
  obtain ⟨items, hitems, h⟩ := Option.bind_eq_some_iff.1 h
  obtain ⟨params, hparams, h⟩ := Option.bind_eq_some_iff.1 h
  obtain ⟨mode, hmode, h⟩ := Option.bind_eq_some_iff.1 h
  cases h
  have hjoined := isJoined_of_toText? (readable_field? hreadable hnameValue) hname
  have hscopes := scope_of_toScope? (readable_fieldOr hreadable "namespace" .null) hscope
  have hconventions := isJoined_of_toOptionalText?
    (readable_fieldOr hreadable "convention" .null) hconvention
  obtain ⟨hresults, hresultRead⟩ := storable_of_toReturn?
    (readable_fieldOr hreadable "return" .null) hresult
  have hall : ∀ param ∈ params, param.Storable ∧ Readable (ofParameter param) := by
    intro param hmem
    obtain ⟨item, hitem, hparam⟩ := exists_of_mapM_eq_some hparams param hmem
    exact storable_of_toParameter? (readable_optionalMembers? hreadable hitems item hitem) hparam
  refine ⟨⟨hjoined, fun path hpath => (hscopes path hpath).1, hconventions, hresults,
    fun param hmem => (hall param hmem).1⟩, fun path hpath => (hscopes path hpath).2, ?_⟩
  refine readable_object ["address", "name", "namespace", "convention", "return", "params",
    "storage-mode"] rfl ?_
  simp only [List.map_cons, List.map_nil, List.forall_mem_cons]
  refine ⟨.int (isWritable_of_toInt? (readable_field? hreadable haddressValue) haddress),
    .string hjoined, ?_, readable_ofText? hconventions, hresultRead, ?_, .string (by simp),
    by simp⟩
  · cases scope with
    | none => exact .null
    | some path => exact readable_ofSegments (hscopes path rfl).1
  · exact .array (List.forall_mem_map.2 fun param hmem => (hall param hmem).2)

end Document

end BindingSync
