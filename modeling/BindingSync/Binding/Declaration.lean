import BindingSync.Binding.TypeExpr

/-!
# Declarations

A class declares functions in source order.  Each function may carry one address offset per
platform tag.  One offset is a sentinel: it marks an address that is not known yet and reads
as no offset at all.
-/

namespace BindingSync.Binding

/-- The offset that marks an address as not yet known. -/
def sentinelOffset : Int := 0x9999999

/-- The keyword in front of a function. -/
inductive Dispatch where
  | none | inlined | virtual | static | callback
deriving DecidableEq, Repr, Inhabited

/-- One declared parameter, which may be unnamed. -/
structure ParamDecl where
  type : TypeExpr
  name : Option String := none
deriving DecidableEq, Repr, Inhabited

/-- Address offsets by platform tag; of two entries for a tag the first counts. -/
abbrev AddressClause := List (String × Int)

/-- A function declared inside a class.  A destructor is named with its `~` and has no return
type; the implicit `this` is not among the parameters. -/
structure FunctionDecl where
  name : String
  isDestructor : Bool := false
  dispatch : Dispatch := .none
  returnType : Option TypeExpr := none
  params : List ParamDecl := []
  addresses : AddressClause := []
deriving DecidableEq, Repr, Inhabited

namespace FunctionDecl

/-- The function receives an implicit `this` pointer. -/
def hasThis (function : FunctionDecl) : Bool :=
  function.dispatch != .static

/-- The offset on a platform, if one is known. -/
def offsetOn? (function : FunctionDecl) (tag : String) : Option Int :=
  (function.addresses.lookup tag).filter (· != sentinelOffset)

end FunctionDecl

/-- A class with its functions in source order. -/
structure ClassDecl where
  name : QualifiedName
  linked : List String := []
  functions : List FunctionDecl := []
deriving DecidableEq, Repr, Inhabited

namespace ClassDecl

/-- The class is linked dynamically on a platform. -/
def isLinkedOn (cls : ClassDecl) (tag : String) : Bool :=
  cls.linked.contains tag

/-- The qualified name of one of the functions. -/
def qualify (cls : ClassDecl) (function : FunctionDecl) : String :=
  cls.name.toString ++ "::" ++ function.name

end ClassDecl

end BindingSync.Binding
