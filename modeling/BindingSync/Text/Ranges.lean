/-!
# Sets of code points as interval tables

The character classes that a reader needs beyond ASCII are given by the Unicode standard as
data.  A class is stored here as a list of inclusive intervals of code points; membership is
a plain search, so a closed instance can be evaluated by the kernel.
-/

namespace BindingSync.Text

/-- Inclusive intervals of code points, in increasing order. -/
abbrev Ranges := List (Nat × Nat)

namespace Ranges

/-- The code point lies in one of the intervals. -/
def contains (ranges : Ranges) (point : Nat) : Bool :=
  ranges.any fun interval => interval.1 ≤ point && point ≤ interval.2

/-- The start of the interval that holds the code point. -/
def startOf? (ranges : Ranges) (point : Nat) : Option Nat :=
  (ranges.find? fun interval => interval.1 ≤ point && point ≤ interval.2).map Prod.fst

end Ranges

end BindingSync.Text
