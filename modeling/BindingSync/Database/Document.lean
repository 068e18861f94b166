import BindingSync.Database.Basic
import BindingSync.Json.Basic

/-!
# Databases as documents

A database is stored as a JSON document with a format version.  The builtin types are not
written, because every database has them.

Reading takes the entries in the order in which they build on one another: categories, types,
namespaces and functions.  It takes only documents whose values are all of the kinds that are
written, whose namespaces stand behind those around them, and which define nothing twice.  Any
other document has no database.
-/

namespace BindingSync

open BindingSync.Text

/-- The version of the format. -/
def formatVersion : String := "1"

namespace Document

/-! ### Writing -/

/-- The image base; an empty array stands for none. -/
def ofImageBase : Option Int → Json
  | none => .array []
  | some imageBase => .int imageBase

/-- Segments as an array. -/
def ofSegments (segments : List WideString) : Json :=
  .array (segments.map .string)

/-- An optional text. -/
def ofText? : Option WideString → Json
  | none => .null
  | some text => .string text

/-- The entry of a source. -/
def ofSource (source : SourceType) : Json :=
  .string source.toString

/-- The entry of a storage mode. -/
def ofMode (mode : StorageMode) : Json :=
  .string mode.toString

/-- The entry of a data type. -/
def ofType : DataType → Json
  | .builtin type => .object [("kind", .string "builtin"), ("name", .string type.name)]
  | .pointer target length =>
    .object [("kind", .string "pointer"), ("target", ofType target), ("length", .int length)]
  | .named type => .object [
      ("kind", .string (match type.kind with | .enum => "enum" | .struct => "struct")),
      ("category", ofSegments type.path.category), ("name", .string type.path.name),
      ("length", .int type.length)]

/-- The entry of a storage. -/
def ofStorage : Option Storage → Json
  | none => .null
  | some (.register name) => .object [("register", .string name)]
  | some (.stack offset size) => .object [("offset", .int offset), ("size", .int size)]

/-- The entry of a parameter. -/
def ofParameter (param : Parameter) : Json :=
  .object [("name", ofText? param.name), ("type", ofType param.type),
    ("source", ofSource param.source), ("storage", ofStorage param.storage)]

/-- The entry of a return value. -/
def ofReturn : Option ReturnValue → Json
  | none => .null
  | some value =>
    .object [("type", ofType value.type), ("source", ofSource value.source)]

/-- The entry of a function. -/
def ofFunction (function : FunctionRecord) : Json :=
  .object [("address", .int function.address), ("name", .string function.name),
    ("namespace", match function.namespacePath with
      | none => .null
      | some path => ofSegments path),
    ("convention", ofText? function.convention),
    ("return", ofReturn function.returnValue),
    ("params", .array (function.params.map ofParameter)),
    ("storage-mode", ofMode function.storageMode)]

/-- The entry of a namespace. -/
def ofNamespace (entry : Namespace) : Json :=
  .object [("path", ofSegments entry.path), ("class", .bool entry.isClass)]

/-- The document of a database. -/
def ofDatabase (db : Database) : Json :=
  .object [("v", .string formatVersion), ("image-base", ofImageBase db.imageBase),
    ("pointer-size", .int db.pointerSize), ("integer-size", .int db.integerSize),
    ("categories", .array (db.categories.toList.map ofSegments)),
    ("types", .array (db.userTypes.map fun type => ofType (.named type))),
    ("namespaces", .array (db.namespaces.map ofNamespace)),
    ("functions", .array (db.functions.toList.map ofFunction))]

/-! ### Reading -/

/-- The value of a field. -/
def field? (entry : Json) (key : String) : Option Json :=
  match entry with
  | .object fields => fields.lookup (.plain key)
  | _ => none

theorem sizeOf_lookup_lt {fields : List (WideString × Json)} {key : WideString} {value : Json}
    (h : fields.lookup key = some value) : sizeOf value < sizeOf fields := by
  induction fields with
  | nil => simp at h
  | cons first rest ih =>
    obtain ⟨name, other⟩ := first
    rw [List.lookup_cons] at h
    split at h
    · cases h
      simp only [List.cons.sizeOf_spec, Prod.mk.sizeOf_spec]
      omega
    · have := ih h
      simp only [List.cons.sizeOf_spec]
      omega

theorem sizeOf_field?_lt {entry value : Json} {key : String} (h : field? entry key = some value) :
    sizeOf value < sizeOf entry := by
  unfold field? at h
  split at h
  · have := sizeOf_lookup_lt h
    simp only [Json.object.sizeOf_spec]
    omega
  · simp at h

/-- A text. -/
def toText? : Json → Option WideString
  | .string value => some value
  | _ => none

/-- A text, or null for none. -/
def toOptionalText? : Json → Option (Option WideString)
  | .null => some none
  | value => (toText? value).map some

/-- An integer. -/
def toInt? : Json → Option Int
  | .int value => some value
  | _ => none

/-- The image base, or an empty array for none. -/
def toImageBase? : Json → Option (Option Int)
  | .array [] => some none
  | value => (toInt? value).map some

/-- A sequence of texts. -/
def toSegments? (value : Json) : Option (List WideString) := do
  (← value.members?).mapM toText?

/-- The members of a sequence in a field that may be missing. -/
def optionalMembers? (entry : Json) (key : String) : Option (List Json) :=
  match field? entry key with
  | none => some []
  | some value => value.members?

/-- The type of a kind that is defined by an entry. -/
def toNamedType? (kind : TypeKind) (entry : Json) : Option NamedType := do
  let category ← toSegments? (← field? entry "category")
  let name ← toText? (← field? entry "name")
  let length ← toInt? (← field? entry "length")
  return { kind, path := { category, name }, length }

/-- The data type of an entry. -/
def toType? (entry : Json) : Option DataType :=
  match field? entry "kind" with
  | some (.string "builtin") => do
    return .builtin (← Builtin.ofName? (← toText? (← field? entry "name")))
  | some (.string "pointer") =>
    match _h : field? entry "target" with
    | some target => do
      return .pointer (← toType? target) (← toInt? (← field? entry "length"))
    | none => none
  | some (.string "enum") => (toNamedType? .enum entry).map .named
  | some (.string "struct") => (toNamedType? .struct entry).map .named
  | _ => none
termination_by sizeOf entry
decreasing_by exact sizeOf_field?_lt _h

/-- The storage of an entry, or null for none. -/
def toStorage? (entry : Json) : Option (Option Storage) :=
  match entry with
  | .null => some none
  | entry =>
    match field? entry "register" with
    | some name => do return some (.register (← toText? name))
    | none => do
      let offset ← toInt? (← field? entry "offset")
      let size ← toInt? (← field? entry "size")
      return some (.stack offset size)

/-- The source of a written name. -/
def toSource? (value : Json) : Option SourceType := do
  SourceType.ofString? (← toText? value).toString

/-- The storage mode of a written name. -/
def toMode? (value : Json) : Option StorageMode := do
  StorageMode.ofString? (← toText? value).toString

/-- The parameter of an entry. -/
def toParameter? (entry : Json) : Option Parameter := do
  let name ← toOptionalText? (← field? entry "name")
  let type ← toType? (← field? entry "type")
  let source ← toSource? (← field? entry "source")
  let storage ← toStorage? ((field? entry "storage").getD .null)
  return { name, type, source, storage }

/-- The return value of an entry, or null for none. -/
def toReturn? (entry : Json) : Option (Option ReturnValue) :=
  match entry with
  | .null => some none
  | entry => do
    let type ← toType? (← field? entry "type")
    let source ← toSource? (← field? entry "source")
    return some { type, source }

/-- The path of a namespace that has to be there. -/
def toKnownPath? (db : Database) (value : Json) : Option (List WideString) := do
  let path ← toSegments? value
  if (db.namespaceAt? path).isSome then some path else none

/-- The path of the namespace of a function.  Without one that counts as true the function is
global. -/
def toScope? (db : Database) (value : Json) : Option (Option (List WideString)) :=
  if value.isTruthy then (toKnownPath? db value).map some else some none

/-- The function of an entry. -/
def toFunction? (db : Database) (entry : Json) : Option FunctionRecord := do
  let address ← toInt? (← field? entry "address")
  let name ← toText? (← field? entry "name")
  let namespacePath ← toScope? db ((field? entry "namespace").getD .null)
  let convention ← toOptionalText? ((field? entry "convention").getD .null)
  let returnValue ← toReturn? ((field? entry "return").getD .null)
  let params ← (← optionalMembers? entry "params").mapM toParameter?
  let storageMode ← toMode? ((field? entry "storage-mode").getD (ofMode .dynamic))
  return { address, name, namespacePath, convention, returnValue, params, storageMode }

/-- The database with the category of an entry. -/
def addCategory? (db : Database) (entry : Json) : Option Database := do
  return db.createCategory (← toSegments? entry)

/-- The database with the type of an entry. -/
def addType? (db : Database) (entry : Json) : Option Database := do
  match ← toType? entry with
  | .named type => (db.createType type).toOption
  | _ => none

/-- The database with the namespace of an entry.  The namespaces around it have to be there. -/
def addNamespace? (db : Database) (entry : Json) : Option Database := do
  let path ← toSegments? (← field? entry "path")
  let isClass := (← field? entry "class").isTruthy
  let parent := path.dropLast
  if path.isEmpty || !(parent.isEmpty || (db.namespaceAt? parent).isSome) then none
  else (db.createNamespace { path, isClass }).toOption

/-- The database with the function of an entry, in place of any other at its address. -/
def addFunction? (db : Database) (entry : Json) : Option Database := do
  return db.putFunction (← toFunction? db entry)

/-- The database of a document, the version apart. -/
def toDatabase? (document : Json) : Option Database := do
  let imageBase ← toImageBase? (← field? document "image-base")
  let pointerSize ← toInt? (← field? document "pointer-size")
  let integerSize ← toInt? (← field? document "integer-size")
  let db : Database := { imageBase, pointerSize, integerSize }
  let db ← (← optionalMembers? document "categories").foldlM addCategory? db
  let db ← (← optionalMembers? document "types").foldlM addType? db
  let db ← (← optionalMembers? document "namespaces").foldlM addNamespace? db
  (← optionalMembers? document "functions").foldlM addFunction? db

end Document

end BindingSync
