/-!
# Places counted from either end

A place in a list is a number; a negative one counts from the end of the list.
-/

namespace BindingSync.Text

/-- The index of a place in a list of a length, if there is such a place. -/
def indexOf? (length : Nat) (place : Int) : Option Nat :=
  let index := if place < 0 then place + length else place
  if 0 ≤ index ∧ index < length then some index.toNat else none

end BindingSync.Text
