import BindingSync.Database.Function
import BindingSync.Database.Keyed

/-!
# Program databases

A database holds the functions of a program by their addresses, the namespaces in the order
in which they were created, the categories of types and the types that were defined, also in
order of creation.  The root category and the builtin types are always there and are not
stored.  Creating a category creates the categories around it.
-/

namespace BindingSync

open BindingSync.Text

/-- Why a change is refused. -/
inductive DuplicateError where
  | typeExists (path : TypePath)
  | namespaceExists (path : List WideString)
deriving DecidableEq, Repr, Inhabited

namespace DuplicateError

/-- The wording of the refusal. -/
def message : DuplicateError → String
  | typeExists path => s!"Type '{path.toString}' already exists"
  | namespaceExists path => s!"Namespace '{Namespace.render path}' already exists"

end DuplicateError

/-- A program database. -/
structure Database where
  /-- The address of offset zero.  Without one no function can be placed. -/
  imageBase : Option Int := some 0x400000
  pointerSize : Int := 4
  integerSize : Int := 4
  functions : Keyed FunctionRecord.address := .empty
  namespaces : List Namespace := []
  /-- All categories but the root. -/
  categories : Keyed (id : List WideString → List WideString) := .empty
  userTypes : List NamedType := []
  /-- A locked database takes no new functions. -/
  isLocked : Bool := false
deriving DecidableEq, Repr, Inhabited

namespace Database

/-! ### Functions -/

/-- The function at an address. -/
def functionAt? (db : Database) (address : Int) : Option FunctionRecord :=
  db.functions.get? address

/-- The database with a function in place of whatever stood at its address. -/
def putFunction (db : Database) (function : FunctionRecord) : Database :=
  { db with functions := db.functions.insert function }

/-- The database with a new global function, unless there is one at the address. -/
def createFunction? (db : Database) (address : Int) (name : WideString) :
    Option Database :=
  if db.isLocked || (db.functionAt? address).isSome then none
  else some (db.putFunction { address, name })

/-! ### Namespaces -/

/-- The namespace at a path. -/
def namespaceAt? (db : Database) (path : List WideString) : Option Namespace :=
  db.namespaces.find? (·.path = path)

/-- The database with one more namespace, at a path where there is none yet. -/
def addNamespace (db : Database) (added : Namespace) : Database :=
  { db with namespaces := db.namespaces ++ [added] }

/-- The database with a new namespace. -/
def createNamespace (db : Database) (added : Namespace) : Except DuplicateError Database :=
  if (db.namespaceAt? added.path).isSome then .error (.namespaceExists added.path)
  else .ok (db.addNamespace added)

/-! ### Types -/

/-- The category is there. -/
def hasCategory (db : Database) (category : List WideString) : Bool :=
  category.isEmpty || db.categories.contains category

/-- The beginnings of a list of segments, the empty one left out. -/
def beginnings (before : List WideString) : List WideString → List (List WideString)
  | [] => []
  | segment :: rest => (before ++ [segment]) :: beginnings (before ++ [segment]) rest

/-- The database with a category and all categories around it. -/
def createCategory (db : Database) (category : List WideString) : Database :=
  { db with categories := (beginnings [] category).foldl Keyed.insert db.categories }

/-- The defined type at a path. -/
def userTypeAt? (db : Database) (path : TypePath) : Option NamedType :=
  db.userTypes.find? (·.path = path)

/-- The type at a path. -/
def typeAt? (db : Database) (path : TypePath) : Option DataType :=
  match Builtin.ofPath? path with
  | some type => some (.builtin type)
  | none => (db.userTypeAt? path).map .named

/-- The database with one more type, at a path where there is none yet, and with the category
that it is in. -/
def addType (db : Database) (type : NamedType) : Database :=
  let db := db.createCategory type.path.category
  { db with userTypes := db.userTypes ++ [type] }

/-- The database with a new type. -/
def createType (db : Database) (type : NamedType) : Except DuplicateError Database :=
  if (db.typeAt? type.path).isSome then .error (.typeExists type.path)
  else .ok (db.addType type)

end Database

end BindingSync
