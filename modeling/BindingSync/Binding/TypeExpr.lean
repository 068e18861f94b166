import BindingSync.Name

/-!
# Type expressions

A type expression is written as `const gd::vector<CCNode*>&`: a qualified name with template
arguments, a `const` mark and a number of `*` and `&` suffixes.  A depth that is not positive
is written as no suffix at all.
-/

namespace BindingSync.Binding

/-- A type as a declaration writes it. -/
inductive TypeExpr where
  /-- A named type with its template arguments, its `const` mark and its depths. -/
  | mk (name : QualifiedName) (args : List TypeExpr) (isConst : Bool) (pointers references : Int)
deriving Repr, Inhabited

namespace TypeExpr

/-- The name without template arguments. -/
def name : TypeExpr → QualifiedName
  | mk name _ _ _ _ => name

/-- The template arguments in writing order. -/
def args : TypeExpr → List TypeExpr
  | mk _ args _ _ _ => args

/-- A `const` was written in front of the name or behind it. -/
def isConst : TypeExpr → Bool
  | mk _ _ isConst _ _ => isConst

/-- The number of `*` suffixes. -/
def pointers : TypeExpr → Int
  | mk _ _ _ pointers _ => pointers

/-- The number of `&` suffixes. -/
def references : TypeExpr → Int
  | mk _ _ _ _ references => references

/-- One level of indirection to a plainly named type. -/
def pointerTo (name : QualifiedName) : TypeExpr :=
  mk name [] false 1 0

/-- The type is used through a pointer or a reference. -/
def isIndirect (type : TypeExpr) : Bool :=
  type.pointers > 0 || type.references > 0

/-- The suffixes of a depth. -/
def suffix (mark : Char) (depth : Int) : String :=
  String.ofList (List.replicate depth.toNat mark)

/-- The clause of already written template arguments. -/
def clause : List String → String
  | [] => ""
  | args => "<" ++ ", ".intercalate args ++ ">"

mutual

/-- The written form of a type. -/
def render : TypeExpr → String
  | mk name args isConst pointers references =>
    (if isConst then "const " else "") ++ name.toString ++ clause (renderAll args) ++
      suffix '*' pointers ++ suffix '&' references

/-- The written forms of several types. -/
def renderAll : List TypeExpr → List String
  | [] => []
  | type :: types => render type :: renderAll types

end

/-- The template arguments as written behind the name. -/
def templateSuffix (type : TypeExpr) : String :=
  clause (renderAll type.args)

mutual

/-- Equality of types is decided part by part. -/
def decEq : (a b : TypeExpr) → Decidable (a = b)
  | mk n xs c p r, mk n' ys c' p' r' =>
    if h : n = n' ∧ c = c' ∧ p = p' ∧ r = r' then
      match decEqAll xs ys with
      | isTrue hx => isTrue (by simp [h, hx])
      | isFalse hx => isFalse (by simp [hx])
    else isFalse (by intro e; cases e; simp at h)

/-- Equality of lists of types is decided member by member. -/
def decEqAll : (xs ys : List TypeExpr) → Decidable (xs = ys)
  | [], [] => isTrue rfl
  | [], _ :: _ => isFalse (by simp)
  | _ :: _, [] => isFalse (by simp)
  | x :: xs, y :: ys =>
    match decEq x y, decEqAll xs ys with
    | isTrue h, isTrue hs => isTrue (by simp [h, hs])
    | isFalse h, _ => isFalse (by simp [h])
    | _, isFalse hs => isFalse (by simp [hs])

end

instance : DecidableEq TypeExpr := decEq

end TypeExpr

end BindingSync.Binding
