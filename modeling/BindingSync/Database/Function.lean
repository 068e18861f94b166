import BindingSync.Database.DataType
import BindingSync.Name
import BindingSync.Text.Digits
import BindingSync.Text.Place

/-!
# Functions and namespaces

A function record stands at an address and holds what is known of the function.  Every piece
of a signature says who authored it last, because only what the user wrote by hand is worth a
question before it is replaced.
-/

namespace BindingSync

open BindingSync.Text

/-- Who authored a piece of a signature last. -/
inductive SourceType where
  | default | analysis | imported | userDefined
deriving DecidableEq, Repr, Inhabited

namespace SourceType

/-- The sources by their written names. -/
def all : List (String × SourceType) :=
  [("default", default), ("analysis", analysis), ("imported", imported),
    ("user_defined", userDefined)]

/-- The written name. -/
def toString : SourceType → String
  | default => "default"
  | analysis => "analysis"
  | imported => "imported"
  | userDefined => "user_defined"

/-- The source of a written name. -/
def ofString? (name : String) : Option SourceType :=
  all.lookup name

end SourceType

/-- Whether parameters are placed by the calling convention or one by one. -/
inductive StorageMode where
  | dynamic | custom
deriving DecidableEq, Repr, Inhabited

namespace StorageMode

/-- The modes by their written names. -/
def all : List (String × StorageMode) :=
  [("dynamic", dynamic), ("custom", custom)]

/-- The written name. -/
def toString : StorageMode → String
  | dynamic => "dynamic"
  | custom => "custom"

/-- The mode of a written name. -/
def ofString? (name : String) : Option StorageMode :=
  all.lookup name

end StorageMode

/-- Where a parameter is passed. -/
inductive Storage where
  | register (name : WideString)
  /-- The bytes from an offset of the stack on. -/
  | stack (offset size : Int)
deriving DecidableEq, Repr, Inhabited

namespace Storage

/-- The written form. -/
def render : Storage → String
  | register name => name.toString
  | stack offset size => s!"Stack[{hexOfInt offset}]:{size}"

end Storage

/-- A parameter.  Without a storage it is placed by the calling convention. -/
structure Parameter where
  name : Option WideString := none
  type : DataType
  source : SourceType := .userDefined
  storage : Option Storage := none
deriving DecidableEq, Repr, Inhabited

namespace Parameter

/-- The written form: the type and, if there is one, the name. -/
def render (param : Parameter) : String :=
  match param.name with
  | none => param.type.render
  | some name => param.type.render ++ " " ++ name.toString

/-- The written form of a parameter list. -/
def renderList (params : List Parameter) : String :=
  "(" ++ ", ".intercalate (params.map render) ++ ")"

end Parameter

/-- What a function returns. -/
structure ReturnValue where
  type : DataType
  source : SourceType := .default
deriving DecidableEq, Repr, Inhabited

/-- A namespace or a class, by the segments of its name from the global namespace on. -/
structure Namespace where
  path : List WideString
  isClass : Bool := false
deriving DecidableEq, Repr, Inhabited

/-- A function at an address.  Without a namespace it is global. -/
structure FunctionRecord where
  address : Int
  name : WideString
  namespacePath : Option (List WideString) := none
  convention : Option WideString := none
  returnValue : Option ReturnValue := none
  params : List Parameter := []
  storageMode : StorageMode := .dynamic
deriving DecidableEq, Repr, Inhabited

namespace Namespace

/-- The written form of a path. -/
def render (path : List WideString) : String :=
  QualifiedName.join (path.map WideString.toString)

end Namespace

namespace FunctionRecord

/-- The name with the namespace in front of it. -/
def qualifiedName (function : FunctionRecord) : String :=
  match function.namespacePath with
  | none => function.name.toString
  | some path => Namespace.render path ++ "::" ++ function.name.toString

/-- The function in the namespace of a path; the empty path is that of the global namespace. -/
def inNamespace (function : FunctionRecord) (path : List WideString) : FunctionRecord :=
  { function with namespacePath := if path.isEmpty then none else some path }

/-- The parameter at a place, which counts from the last one if it is negative. -/
def paramAt? (function : FunctionRecord) (place : Int) : Option Parameter :=
  (indexOf? function.params.length place).bind (function.params[·]?)

/-- The function with another signature.  Without a convention or a return type the old one
stays; parameters that the convention places have no storage of their own. -/
def withSignature (function : FunctionRecord) (convention : Option WideString)
    (returnType : Option DataType) (params : List Parameter) (mode : StorageMode)
    (source : SourceType) : FunctionRecord :=
  { function with
    convention := convention.or function.convention
    returnValue := (returnType.map fun type => ⟨type, source⟩).or function.returnValue
    params :=
      match mode with
      | .dynamic => params.map fun param => { param with storage := none }
      | .custom => params
    storageMode := mode }

end FunctionRecord

end BindingSync
