import BindingSync.Numeral.Binary64

/-!
# The shortest digits of a number

A floating-point number is written with the fewest significant digits that read back as the
same number.  For a given number of digits only two decimals can do so: the neighbours of the
number on the grid of decimals with that many digits.  The first grid with a hit wins, and of
two hits the nearer one.
-/

namespace BindingSync.Numeral

/-- The decimal `digits * 10 ^ power`. -/
structure Decimal where
  digits : Nat
  power : Int
deriving DecidableEq, Repr, Inhabited

namespace Decimal

/-- The decimal without zeros at the end of its digits, as far as the bound goes. -/
def trim : Nat → Decimal → Decimal
  | 0, decimal => decimal
  | bound + 1, decimal =>
    if decimal.digits ≠ 0 ∧ decimal.digits % 10 = 0 then
      trim bound ⟨decimal.digits / 10, decimal.power + 1⟩
    else decimal

/-- The power of ten of the first digit. -/
def leadingPower (decimal : Decimal) : Int :=
  decimal.power + (Nat.toDigits 10 decimal.digits).length - 1

end Decimal

namespace Shortest

/-- The power of ten that is at most the quotient while the next power is above it. -/
def magnitude (num den : Nat) : Int :=
  if den ≤ num then (Nat.toDigits 10 (num / den)).length - 1
  else
    let size := (Nat.toDigits 10 (den / num)).length
    if num * Nat.pow 10 (size - 1) = den then -((size : Int) - 1) else -size

/-- The quotient counted in units of a power of ten: the whole units, and twice the rest
compared with one unit. -/
def unitsBelow (num den : Nat) (power : Int) : Nat × Ordering :=
  let (n, d) := if power < 0 then (num * Nat.pow 10 (-power).toNat, den)
    else (num, den * Nat.pow 10 power.toNat)
  (n / d, compare (2 * (n % d)) d)

/-- The decimal of the given grid that reads back as the number, the nearer of two. -/
def onGrid? (mantissa : Nat) (exponent power : Int) : Option Decimal :=
  let (num, den) := Binary64.quotient mantissa exponent
  let (below, rest) := unitsBelow num den power
  let reads (digits : Nat) : Bool :=
    Binary64.ofDecimal false digits power = .finite false mantissa exponent
  match reads below, reads (below + 1) with
  | true, true =>
    let digits := match rest with
      | .lt => below
      | .gt => below + 1
      | .eq => if below % 2 = 0 then below else below + 1
    some ⟨digits, power⟩
  | true, false => some ⟨below, power⟩
  | false, true => some ⟨below + 1, power⟩
  | false, false => none

/-- The first hit among the grids with `count`, `count + 1`, … digits, as far as the bound
goes. -/
def search (mantissa : Nat) (exponent leading : Int) : Nat → Nat → Decimal
  | 0, _ => ⟨mantissa, 0⟩
  | bound + 1, count =>
    match onGrid? mantissa exponent (leading - count + 1) with
    | some decimal => decimal
    | none => search mantissa exponent leading bound (count + 1)

/-- The shortest decimal of a positive number.  Seventeen digits always suffice. -/
def decimal (mantissa : Nat) (exponent : Int) : Decimal :=
  let (num, den) := Binary64.quotient mantissa exponent
  (search mantissa exponent (magnitude num den) 17 1).trim 17

end Shortest

namespace Binary64

/-- When a number is written with an exponent, and how. -/
structure Layout where
  /-- The smallest power of ten of the first digit that is written with a point only. -/
  leastPositional : Int
  /-- The first power of ten that is written with an exponent again. -/
  endPositional : Int
  /-- The least number of digits of an exponent. -/
  exponentDigits : Nat
  infinity : String
  notANumber : String

/-- Positional notation from `10 ^ -4` up to, but not including, `10 ^ 16`; whole numbers keep a
point and a zero, and an exponent has a sign and at least two digits. -/
def plain : Layout where
  leastPositional := -4
  endPositional := 16
  exponentDigits := 2
  infinity := "inf"
  notANumber := "nan"

/-- Digits with a point behind the first one, if there are more. -/
def pointed : List Char → List Char
  | first :: second :: rest => first :: '.' :: second :: rest
  | digits => digits

/-- A positive decimal in the given layout. -/
def layOut (layout : Layout) (decimal : Decimal) : List Char :=
  let digits := Nat.toDigits 10 decimal.digits
  let leading := decimal.leadingPower
  if layout.leastPositional ≤ leading ∧ leading < layout.endPositional then
    if leading < 0 then
      '0' :: '.' :: List.replicate (-leading - 1).toNat '0' ++ digits
    else
      let whole := leading.toNat + 1
      let padded := digits ++ List.replicate (whole - digits.length) '0'
      let fraction := padded.drop whole
      padded.take whole ++ '.' :: (if fraction.isEmpty then ['0'] else fraction)
  else
    let size := Nat.toDigits 10 leading.natAbs
    pointed digits ++ 'e' :: (if leading < 0 then '-' else '+') ::
      (List.replicate (layout.exponentDigits - size.length) '0' ++ size)

/-- The written form of a number in a layout. -/
def renderWith (layout : Layout) : Binary64 → String
  | nan => layout.notANumber
  | infinite negative => (if negative then "-" else "") ++ layout.infinity
  | finite negative mantissa exponent =>
    (if negative then "-" else "") ++
      if mantissa = 0 then "0.0"
      else String.ofList (layOut layout (Shortest.decimal mantissa exponent))

/-- The shortest form of a number that reads back. -/
def render (x : Binary64) : String :=
  renderWith plain x

end Binary64

end BindingSync.Numeral
