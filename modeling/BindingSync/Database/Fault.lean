import BindingSync.Database.Document

/-!
# Faults of documents

A document that has no database has a first fault.  It is found in the order in which a
database is built from the document, and only what is looked at there can be a fault: a value
is asked for its fields, its members or its place among what is there already, and its kind
alone does not matter.  So a missing field can come before a name that is no text.

The paths of types and namespaces are compared as keys, whatever their parts are.
-/

namespace BindingSync

open BindingSync.Text

/-- What is wrong with an entry of a document. -/
inductive EntryFault where
  /-- A field is missing. -/
  | missing (key : String)
  /-- There is no namespace at a path. -/
  | unknownNamespace (path : List Json)
  | unknownBuiltin (name : Json)
  | unknownKind (kind : Json)
  | unknownSource (source : Json)
  | unknownMode (mode : Json)
  /-- A namespace has no name. -/
  | emptyPath
  /-- A value is not of the kind that its place asks for. -/
  | wrongShape
deriving Repr, Inhabited

namespace EntryFault

/-- The wording of a missing key. -/
def missingKey (key : String) : String :=
  s!"KeyError({key})"

/-- The wording of a value that is not acceptable. -/
def unacceptable (text : String) : String :=
  s!"ValueError({quoted text})"

/-- The wording of a fault. -/
def message : EntryFault → String
  | missing key => missingKey (quoted key)
  | unknownNamespace path => missingKey (Json.describeTuple path)
  | unknownBuiltin name => unacceptable s!"unknown builtin type {name.describe}"
  | unknownKind kind => unacceptable s!"unknown type kind {kind.describe}"
  | unknownSource source => unacceptable s!"{source.describe} is not a valid SourceType"
  | unknownMode mode => unacceptable s!"{mode.describe} is not a valid StorageMode"
  | emptyPath => unacceptable "not enough values to unpack (expected at least 1, got 0)"
  | wrongShape => "TypeError"

end EntryFault

/-- Why an entry cannot be read. -/
inductive EntryError where
  | fault (fault : EntryFault)
  | duplicate (error : DuplicateError)
  /-- The entry is asked for what entries of its kind never have. -/
  | noMember
deriving Repr, Inhabited

namespace Document

/-- What looking at a part of a document gives. -/
abbrev Check (α : Type) := Except EntryError α

namespace Check

/-- A part with a fault. -/
def bad {α : Type} (fault : EntryFault) : Check α :=
  .error (.fault fault)

/-- The value of a field that has to be there. -/
def field (entry : Json) (key : String) : Check Json :=
  match entry with
  | .object fields =>
    match fields.lookup (.plain key) with
    | some value => .ok value
    | none => bad (.missing key)
  | _ => bad .wrongShape

/-- The members of a sequence. -/
def members (value : Json) : Check (List Json) :=
  match value.members? with
  | some items => .ok items
  | none => bad .wrongShape

/-- The members of a sequence in a field that may be missing. -/
def optionalMembers (entry : Json) (key : String) : Check (List Json) :=
  match field? entry key with
  | some value => members value
  | none => .ok []

/-- The values can be looked up as keys. -/
def keys (values : List Json) : Check Unit :=
  if values.all Json.isAtom then .ok () else bad .wrongShape

/-- The texts of a path that is worded in a message. -/
def worded (path : List Json) : Check (List WideString) :=
  match path.mapM toText? with
  | some segments => .ok segments
  | none => bad .wrongShape

/-! ### Types -/

/-- What is known of a type from its entry: where it stands. -/
inductive TypePlace where
  | builtin (type : Builtin)
  /-- A pointer stands nowhere. -/
  | pointer
  | named (category : List Json) (name : Json)
deriving Repr, Inhabited

/-- The builtin type of a name. -/
def builtinNamed (name : Json) : Check TypePlace :=
  match (toText? name).bind Builtin.ofName? with
  | some type => .ok (.builtin type)
  | none => if name.isAtom then bad (.unknownBuiltin name) else bad .wrongShape

/-- The place of a defined type of a kind. -/
def named (kind : Json) (entry : Json) : Check TypePlace := do
  let category ← members (← field entry "category")
  let name ← field entry "name"
  match kind with
  | .string "enum" => (field entry "length").map fun _ => .named category name
  | .string "struct" => (field entry "length").map fun _ => .named category name
  | kind => bad (.unknownKind kind)

/-- The place of the type of an entry. -/
def type (entry : Json) : Check TypePlace :=
  match field entry "kind" with
  | .error error => .error error
  | .ok (.string "builtin") => do builtinNamed (← field entry "name")
  | .ok (.string "pointer") =>
    match _h : field? entry "target" with
    | some target => do
      let _ ← type target
      (field entry "length").map fun _ => .pointer
    | none => bad (.missing "target")
  | .ok kind => named kind entry
termination_by sizeOf entry
decreasing_by exact sizeOf_field?_lt _h

/-! ### Functions -/

/-- The storage of an entry, or null for none. -/
def storage : Json → Check Unit
  | .null => .ok ()
  | entry =>
    match field? entry "register" with
    | some _ => .ok ()
    | none => do
      let _ ← field entry "offset"
      let _ ← field entry "size"

/-- The source of a written name. -/
def source (value : Json) : Check Unit :=
  if (toSource? value).isSome then .ok () else bad (.unknownSource value)

/-- The storage mode of a written name. -/
def mode (value : Json) : Check Unit :=
  if (toMode? value).isSome then .ok () else bad (.unknownMode value)

/-- A parameter. -/
def parameter (entry : Json) : Check Unit := do
  let _ ← field entry "name"
  let _ ← type (← field entry "type")
  source (← field entry "source")
  storage ((field? entry "storage").getD .null)

/-- A return value, or null for none. -/
def returnValue : Json → Check Unit
  | .null => .ok ()
  | entry => do
    let _ ← type (← field entry "type")
    source (← field entry "source")

/-! ### Documents -/

/-- The paths of the types and namespaces that are there. -/
structure Paths where
  /-- The defined types, each by its category and its name. -/
  types : List (List Json) := []
  namespaces : List (List Json) := []
deriving Repr, Inhabited

/-- A path is among others. -/
def isAmong (path : List Json) (others : List (List Json)) : Bool :=
  others.any (Json.sameKeys path)

/-- The path of a namespace that has to be there. -/
def known (paths : Paths) (path : List Json) : Check Unit := do
  keys path
  if !isAmong path paths.namespaces then bad (.unknownNamespace path)

/-- A category. -/
def category (entry : Json) : Check Unit := do
  keys (← members entry)

/-- A type, which must not stand where another one does. -/
def addType (paths : Paths) (entry : Json) : Check Paths := do
  match ← type entry with
  | .builtin type => .error (.duplicate (.typeExists type.path))
  | .pointer => .error .noMember
  | .named category name => do
    let path := category ++ [name]
    keys path
    let isBuiltin := category.isEmpty && ((toText? name).bind Builtin.ofName?).isSome
    if isBuiltin || isAmong path paths.types then
      let segments ← worded path
      .error (.duplicate (.typeExists ⟨segments.dropLast, segments.getLastD (.plain "")⟩))
    else .ok { paths with types := path :: paths.types }

/-- A namespace, which must not stand where another one does. -/
def addNamespace (paths : Paths) (entry : Json) : Check Paths := do
  let path ← members (← field entry "path")
  if path.isEmpty then bad .emptyPath
  if !path.dropLast.isEmpty then known paths path.dropLast
  let _ ← field entry "class"
  keys path
  if isAmong path paths.namespaces then
    .error (.duplicate (.namespaceExists (← worded path)))
  else .ok { paths with namespaces := path :: paths.namespaces }

/-- A function. -/
def function (paths : Paths) (entry : Json) : Check Unit := do
  match entry with
  | .object _ => .ok ()
  | _ => .error .noMember
  let scope := (field? entry "namespace").getD .null
  if scope.isTruthy then known paths (← members scope)
  let address ← field entry "address"
  let _ ← field entry "name"
  returnValue ((field? entry "return").getD .null)
  (← optionalMembers entry "params").forM parameter
  mode ((field? entry "storage-mode").getD (ofMode .dynamic))
  keys [address]

end Check

open Check in
/-- Looks for the first fault of a document, the version apart. -/
def check (document : Json) : Check Unit := do
  let _ ← field document "image-base"
  let _ ← field document "pointer-size"
  let _ ← field document "integer-size"
  (← optionalMembers document "categories").forM category
  let paths ← (← optionalMembers document "types").foldlM addType {}
  let paths ← (← optionalMembers document "namespaces").foldlM addNamespace paths
  (← optionalMembers document "functions").forM (function paths)

/-- The first fault of a document that has no database.  If nothing that is looked at is at
fault, some value is not of the kind that is written. -/
def firstError (document : Json) : EntryError :=
  match check document with
  | .error error => error
  | .ok () => .fault .wrongShape

end Document

end BindingSync
