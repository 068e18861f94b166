import BindingSync.Text.Blank
import BindingSync.Text.Digits
import BindingSync.Text.Numeral

/-!
# Integers as a person writes them

An integer has blanks around it, perhaps a sign, perhaps one of the marks `0x`, `0o` and `0b`
for a base, and digits.  Single underscores may stand between digits and behind the mark.
Decimal digits of any script count.  Where the base is not known beforehand, a decimal number
does not start with a zero, unless it is zero.

Decimal numbers of more than 4300 digits are neither read nor written, because turning such
numbers into digits and back takes too long.  The other bases have no such limit.
-/

namespace BindingSync.Text.Integer

/-- The greatest number of digits of a decimal number. -/
def maxDigits : Nat := 4300

/-- The blanks around an integer of ASCII characters. -/
def isAsciiBlank (c : Char) : Bool :=
  c = ' ' || (9 ≤ c.toNat && c.toNat ≤ 13)

/-- A character in ASCII: other blanks are spaces, other decimal digits their values, and
anything else is no part of a number. -/
def toAscii (c : Char) : Char :=
  if c.toNat < 127 then c
  else if isBlank c then ' '
  else
    match decimalValue? c with
    | some digit => Char.ofNat ('0'.toNat + digit)
    | none => '?'

/-- The ASCII form of a text without the blanks around it. -/
def normalized (text : List Char) : List Char :=
  stripWith isAsciiBlank (text.map toAscii)

/-- The value of a digit in a base. -/
def digitIn? (base : Nat) (c : Char) : Option Nat :=
  (hexDigit? c).filter (· < base)

/-- The number of digits behind a given value; the flag says that the last character was an
underscore. -/
def digitsFrom (base value : Nat) (afterMark : Bool) : List Char → Option Nat
  | [] => if afterMark then none else some value
  | c :: rest =>
    if c = '_' then
      if afterMark then none else digitsFrom base value true rest
    else
      match digitIn? base c with
      | some digit => digitsFrom base (value * base + digit) false rest
      | none => none

/-- There are more digits than a number in a base may have. -/
def isTooLong (base : Nat) (text : List Char) : Bool :=
  base = 10 && maxDigits < text.countP (· != '_')

/-- The number of a run of digits, of which there is at least one. -/
def digits? (base : Nat) (text : List Char) : Option Nat :=
  if text.isEmpty || text.head? = some '_' || isTooLong base text then none
  else digitsFrom base 0 false text

/-- A text without an underscore in front. -/
def withoutMark : List Char → List Char
  | '_' :: rest => rest
  | text => text

/-- The number of a text without a sign, in the base that its mark says. -/
def unsigned? (text : List Char) : Option Nat :=
  match text with
  | '0' :: c :: rest =>
    if c = 'x' || c = 'X' then digits? 16 (withoutMark rest)
    else if c = 'o' || c = 'O' then digits? 8 (withoutMark rest)
    else if c = 'b' || c = 'B' then digits? 2 (withoutMark rest)
    else (digits? 10 text).filter (· = 0)
  | text => digits? 10 text

/-- The letters behind the zero of the mark of a base. -/
def marksOf (base : Nat) : List Char :=
  if base = 16 then ['x', 'X'] else if base = 8 then ['o', 'O']
  else if base = 2 then ['b', 'B'] else []

/-- The number of a text without a sign in a base, whose mark may stand in front. -/
def unsignedIn? (base : Nat) (text : List Char) : Option Nat :=
  match text with
  | '0' :: c :: rest =>
    if (marksOf base).contains c then digits? base (withoutMark rest) else digits? base text
  | text => digits? base text

/-- The integer of a text, given how its part behind the sign is read. -/
def signed? (unsigned? : List Char → Option Nat) (text : List Char) : Option Int :=
  match normalized text with
  | '-' :: rest => (unsigned? rest).map fun n => -(n : Int)
  | '+' :: rest => (unsigned? rest).map Int.ofNat
  | rest => (unsigned? rest).map Int.ofNat

/-- The integer that a text writes in a base. -/
def inBase? (base : Nat) (text : List Char) : Option Int :=
  signed? (unsignedIn? base) text

/-- The integer that a text writes, in the base that its mark says. -/
def ofString? (text : String) : Option Int :=
  signed? unsigned? text.toList

/-- The decimal digits of an integer are few enough to be written. -/
def isWritable (n : Int) : Bool :=
  (Nat.toDigits 10 n.natAbs).length ≤ maxDigits

/-- The decimal form of an integer that can be written. -/
def render? (n : Int) : Option String :=
  if isWritable n then some (toString n) else none

end BindingSync.Text.Integer
