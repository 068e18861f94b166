/-!
# Decimal and hexadecimal digits

Reading accepts both cases of the hexadecimal digits; writing uses the lower case.
-/

namespace BindingSync.Text

/-- The number that a run of decimal digits writes. -/
def decimalNumber (digits : List Char) : Nat :=
  digits.foldl (fun value c => value * 10 + (c.toNat - '0'.toNat)) 0

/-- The value of a hexadecimal digit of either case. -/
def hexDigit? (c : Char) : Option Nat :=
  if '0' ≤ c ∧ c ≤ '9' then some (c.toNat - '0'.toNat)
  else if 'a' ≤ c ∧ c ≤ 'f' then some (c.toNat - 'a'.toNat + 10)
  else if 'A' ≤ c ∧ c ≤ 'F' then some (c.toNat - 'A'.toNat + 10)
  else none

/-- The number that digits write after a given value in some base. -/
def numberFrom (base : Nat) (digit? : Char → Option Nat) (value : Nat) : List Char → Option Nat
  | [] => some value
  | c :: rest => (digit? c).bind fun d => numberFrom base digit? (value * base + d) rest

/-- The number that a run of hexadecimal digits writes; the run is not empty. -/
def hexNumber? : List Char → Option Nat
  | [] => none
  | digits => numberFrom 16 hexDigit? 0 digits

/-- The hexadecimal digits of a number, padded with zeros to a width. -/
def hexPadded (width n : Nat) : List Char :=
  let digits := Nat.toDigits 16 n
  List.replicate (width - digits.length) '0' ++ digits

/-- The hexadecimal form of an integer behind a `0x`; a sign stands between the two. -/
def hexOfInt (n : Int) : String :=
  "0x" ++ (if n < 0 then "-" else "") ++ String.ofList (Nat.toDigits 16 n.natAbs)

end BindingSync.Text
