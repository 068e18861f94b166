import BindingSync.Sync.Outcome

/-!
# Resolving type expressions

The scopes of a type name are the category of the type, and template arguments are part of its
name: `gd::vector<int>` is the type `vector<int>` of category `/gd`.  A type that is not there
is created as a placeholder.  What it is follows from its use: behind a pointer or a reference
it is taken for a structure of unknown layout, by value for an enumeration.  Every `*` and
every `&` is one level of indirection, and `const` has no meaning to the database.
-/

namespace BindingSync

open BindingSync.Binding

/-- A resolved type, with the database that holds it. -/
structure Resolution where
  type : DataType
  db : Database
  /-- The warning for the placeholder, if one was created. -/
  warnings : List Warning := []
deriving DecidableEq, Repr

namespace Resolution

/-- The place of the type that an expression names. -/
def pathOf (type : TypeExpr) : TypePath where
  category := type.name.scopes.map .plain
  name := .plain (type.name.base ++ type.templateSuffix)

/-- The placeholder for an expression. -/
def placeholder (db : Database) (type : TypeExpr) : NamedType :=
  if type.isIndirect then ⟨.struct, pathOf type, 0⟩ else ⟨.enum, pathOf type, db.integerSize⟩

/-- The levels of indirection of an expression. -/
def depth (type : TypeExpr) : Nat :=
  (type.pointers + type.references).toNat

/-- Resolves an expression. -/
def resolve (db : Database) (type : TypeExpr) : Except SyncError Resolution :=
  if type.name.base = "" then .error (.namelessType type)
  else
    let db := db.createCategory (pathOf type).category
    let finish (found : DataType) (db : Database) (warnings : List Warning) : Resolution :=
      ⟨found.indirect db.pointerSize (depth type), db, warnings⟩
    match db.typeAt? (pathOf type) with
    | some found => .ok (finish found db [])
    | none =>
      let added := placeholder db type
      .ok (finish (.named added) (db.addType added) [.newType added.path added.kind])

end Resolution

end BindingSync
