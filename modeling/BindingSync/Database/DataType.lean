import BindingSync.Text.WideString

/-!
# Data types

A database knows the builtin types, the enumerations and structures that were defined in it,
and pointers to any of these.  Types are values: two types are the same exactly when they are
equal.  A structure of no length has a layout that is not known yet.
-/

namespace BindingSync

open BindingSync.Text

/-- The place of a type: the segments of its category from the root on, and its name with any
template arguments. -/
structure TypePath where
  category : List WideString
  name : WideString
deriving DecidableEq, Repr, Inhabited

namespace TypePath

/-- The path with a slash in front of each segment. -/
def toString (path : TypePath) : String :=
  "/" ++ "/".intercalate ((path.category ++ [path.name]).map WideString.toString)

instance : ToString TypePath where
  toString := toString

end TypePath

/-- A primitive type of the root category. -/
structure Builtin where
  name : String
  length : Int
  isFloat : Bool := false
deriving DecidableEq, Repr, Inhabited

/-- What a defined type is. -/
inductive TypeKind where
  | enum | struct
deriving DecidableEq, Repr, Inhabited

/-- A type that was defined in a database. -/
structure NamedType where
  kind : TypeKind
  path : TypePath
  length : Int
deriving DecidableEq, Repr, Inhabited

/-- A data type. -/
inductive DataType where
  | builtin (type : Builtin)
  | named (type : NamedType)
  /-- One level of indirection. -/
  | pointer (target : DataType) (length : Int)
deriving DecidableEq, Repr, Inhabited

namespace Builtin

/-- The builtin types of every database. -/
def all : List Builtin :=
  [⟨"void", 0, false⟩, ⟨"bool", 1, false⟩, ⟨"char", 1, false⟩, ⟨"uchar", 1, false⟩,
    ⟨"short", 2, false⟩, ⟨"ushort", 2, false⟩, ⟨"int", 4, false⟩, ⟨"uint", 4, false⟩,
    ⟨"long", 4, false⟩, ⟨"ulong", 4, false⟩, ⟨"longlong", 8, false⟩, ⟨"ulonglong", 8, false⟩,
    ⟨"size_t", 4, false⟩, ⟨"float", 4, true⟩, ⟨"double", 8, true⟩, ⟨"longdouble", 10, true⟩]

/-- The builtin type of a name. -/
def ofName? (name : WideString) : Option Builtin :=
  all.find? fun type => .plain type.name = name

/-- The place of a builtin type. -/
def path (type : Builtin) : TypePath where
  category := []
  name := type.name

/-- The builtin type at a place. -/
def ofPath? (path : TypePath) : Option Builtin :=
  if path.category = [] then ofName? path.name else none

end Builtin

namespace DataType

/-- The number of bytes of a value. -/
def length : DataType → Int
  | builtin type => type.length
  | named type => type.length
  | pointer _ length => length

/-- The written form: the name without its category, and a star for each indirection. -/
def render : DataType → String
  | builtin type => type.name
  | named type => type.path.name.toString
  | pointer target _ => target.render ++ "*"

/-- The place of a type that is no pointer. -/
def path? : DataType → Option TypePath
  | builtin type => some type.path
  | named type => some type.path
  | pointer _ _ => none

/-- The type with a number of indirections around it. -/
def indirect (type : DataType) (length : Int) : Nat → DataType
  | 0 => type
  | depth + 1 => pointer (indirect type length depth) length

/-- A structure that is passed by value. -/
def isStruct : DataType → Bool
  | named type => type.kind = .struct
  | _ => false

/-- A floating-point number. -/
def isFloat : DataType → Bool
  | builtin type => type.isFloat
  | _ => false

/-- A structure whose length is not known yet. -/
def isUndefined : DataType → Bool
  | named type => type.kind = .struct && type.length ≤ 0
  | _ => false

instance : ToString DataType where
  toString := render

end DataType

end BindingSync
