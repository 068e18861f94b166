/-!
# Floating-point numbers of 64 bits

A finite number is a sign, a mantissa below `2 ^ 53` and a power of two; the exponent is at
least `-1074`, and it is that unless the mantissa has 53 bits, so every number has one form.
All arithmetic is the exact arithmetic of quotients followed by one rounding to the nearest
number, of two equally near ones to the one with an even mantissa.
-/

namespace BindingSync.Numeral

/-- A floating-point number of 64 bits. -/
inductive Binary64 where
  /-- The number `± mantissa * 2 ^ exponent`. -/
  | finite (negative : Bool) (mantissa : Nat) (exponent : Int)
  | infinite (negative : Bool)
  | nan
deriving DecidableEq, Repr, Inhabited

namespace Binary64

/-- The exponent of the smallest numbers. -/
def minExponent : Int := -1074

/-- The exponent of the largest numbers. -/
def maxExponent : Int := 971

/-- Zero with a sign. -/
def zero (negative : Bool) : Binary64 :=
  finite negative 0 minExponent

/-- Multiplies a quotient by a power of two. -/
def scale (num den : Nat) (power : Int) : Nat × Nat :=
  if power < 0 then (num, den * Nat.pow 2 (-power).toNat) else (num * Nat.pow 2 power.toNat, den)

/-- The nearest natural number to a quotient; a half goes to the even neighbour. -/
def roundQuotient (num den : Nat) : Nat :=
  let floor := num / den
  let rest := 2 * (num % den)
  if rest < den then floor
  else if den < rest then floor + 1
  else if floor % 2 = 0 then floor else floor + 1

/-- The exponent of the grid that a quotient is rounded on: the finest one on which it has no more
bits than a mantissa.  Its size in bits tells that exponent up to one. -/
def gridExponent (num den : Nat) : Int :=
  let guess : Int := (num.log2 : Int) - den.log2 - 52
  let scaled := scale num den (-guess)
  max (if scaled.1 < scaled.2 * Nat.pow 2 52 then guess - 1 else guess) minExponent

/-- The number of a mantissa on a grid.  A mantissa that was rounded up to one bit more goes to the
next grid. -/
def onGrid (negative : Bool) (mantissa : Nat) (exponent : Int) : Binary64 :=
  if mantissa = Nat.pow 2 53 then
    if maxExponent < exponent + 1 then infinite negative
    else finite negative (Nat.pow 2 52) (exponent + 1)
  else if maxExponent < exponent then infinite negative
  else finite negative mantissa exponent

/-- The number nearest to a quotient. -/
def ofQuotient (negative : Bool) (num den : Nat) : Binary64 :=
  if num = 0 then zero negative
  else
    let exponent := gridExponent num den
    let scaled := scale num den (-exponent)
    onGrid negative (roundQuotient scaled.1 scaled.2) exponent

/-- The number nearest to `± digits * 10 ^ power`.  Powers far outside the range of the format
are decided without being computed. -/
def ofDecimal (negative : Bool) (digits : Nat) (power : Int) : Binary64 :=
  let size : Int := (Nat.toDigits 10 digits).length + power
  if digits = 0 ∨ size < -400 then zero negative
  else if 400 < size then infinite negative
  else if power < 0 then ofQuotient negative digits (Nat.pow 10 (-power).toNat)
  else ofQuotient negative (digits * Nat.pow 10 power.toNat) 1

/-- The magnitude of a finite number as a quotient. -/
def quotient (mantissa : Nat) (exponent : Int) : Nat × Nat :=
  scale mantissa 1 exponent

/-- The opposite number. -/
def neg : Binary64 → Binary64
  | finite negative mantissa exponent => finite (!negative) mantissa exponent
  | infinite negative => infinite (!negative)
  | nan => nan

/-- The sign and the magnitude of a signed value. -/
def ofSigned (num : Int) (den : Nat) (zeroNegative : Bool) : Binary64 :=
  if num = 0 then zero zeroNegative else ofQuotient (num < 0) num.natAbs den

/-- The number nearest to an integer. -/
def ofInt (n : Int) : Binary64 :=
  ofSigned n 1 false

/-- A finite number as a signed quotient. -/
def signed (negative : Bool) (mantissa : Nat) (exponent : Int) : Int × Nat :=
  let (num, den) := quotient mantissa exponent
  (if negative then -(num : Int) else num, den)

/-- The number nearest to the sum. -/
def add : Binary64 → Binary64 → Binary64
  | nan, _ => nan
  | _, nan => nan
  | infinite a, infinite b => if a = b then infinite a else nan
  | infinite a, _ => infinite a
  | _, infinite b => infinite b
  | finite sa ma ea, finite sb mb eb =>
    let (na, da) := signed sa ma ea
    let (nb, db) := signed sb mb eb
    ofSigned (na * db + nb * da) (da * db) (sa && sb)

/-- The number nearest to the product. -/
def mul : Binary64 → Binary64 → Binary64
  | nan, _ => nan
  | _, nan => nan
  | infinite a, infinite b => infinite (a != b)
  | infinite a, finite b m _ => if m = 0 then nan else infinite (a != b)
  | finite a m _, infinite b => if m = 0 then nan else infinite (a != b)
  | finite sa ma ea, finite sb mb eb =>
    let (na, da) := quotient ma ea
    let (nb, db) := quotient mb eb
    ofQuotient (sa != sb) (na * nb) (da * db)

/-- The order of two finite numbers or infinities; a number that is none has no place in it. -/
def lt : Binary64 → Binary64 → Bool
  | nan, _ => false
  | _, nan => false
  | infinite a, infinite b => a && !b
  | infinite a, finite _ _ _ => a
  | finite _ _ _, infinite b => !b
  | finite sa ma ea, finite sb mb eb =>
    let (na, da) := signed sa ma ea
    let (nb, db) := signed sb mb eb
    na * db < nb * da

/-- Two numbers are the same quantity: the zeros of both signs are, and no number that is none
is the same as any. -/
def same : Binary64 → Binary64 → Bool
  | nan, _ => false
  | _, nan => false
  | infinite a, infinite b => a = b
  | infinite _, finite _ _ _ => false
  | finite _ _ _, infinite _ => false
  | finite sa ma ea, finite sb mb eb => (ma = 0 ∧ mb = 0) ∨ (sa = sb ∧ ma = mb ∧ ea = eb)

/-- The number is exactly the given integer. -/
def isInt : Binary64 → Int → Bool
  | finite s m e, n =>
    let (num, den) := signed s m e
    num = n * den
  | _, _ => false

/-- The number is below the given integer. -/
def ltInt : Binary64 → Int → Bool
  | finite s m e, n =>
    let (num, den) := signed s m e
    num < n * den
  | infinite negative, _ => negative
  | nan, _ => false

/-- The given integer is below the number. -/
def intLt (n : Int) : Binary64 → Bool
  | finite s m e =>
    let (num, den) := signed s m e
    n * den < num
  | infinite negative => !negative
  | nan => false

end Binary64

end BindingSync.Numeral
