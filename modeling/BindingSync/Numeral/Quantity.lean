import BindingSync.Numeral.Binary64

/-!
# Quantities

An integer and a floating-point number can be the same quantity, and either can be below the
other.  Both are compared exactly, without rounding the integer.
-/

namespace BindingSync.Numeral

/-- An integer or a floating-point number. -/
inductive Quantity where
  | whole (value : Int)
  | real (value : Binary64)
deriving DecidableEq, Repr, Inhabited

namespace Quantity

/-- The quantity of a truth value. -/
def ofBool (value : Bool) : Quantity :=
  .whole (if value then 1 else 0)

/-- Two quantities are the same key; the value that is no number is the same key as itself. -/
def same : Quantity → Quantity → Bool
  | whole a, whole b => a = b
  | whole a, real b => b.isInt a
  | real a, whole b => a.isInt b
  | real a, real b => a.same b || (a = .nan && b = .nan)

/-- A quantity is below another one. -/
def lt : Quantity → Quantity → Bool
  | whole a, whole b => a < b
  | whole a, real b => Binary64.intLt a b
  | real a, whole b => a.ltInt b
  | real a, real b => a.lt b

end Quantity

end BindingSync.Numeral
