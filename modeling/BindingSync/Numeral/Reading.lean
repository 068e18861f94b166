import BindingSync.Numeral.Binary64
import BindingSync.Text.Integer

/-!
# Floating-point numbers as a person writes them

A number has blanks around it, perhaps a sign, digits with perhaps a point among them, and
perhaps an exponent of ten.  The infinities and the value that is no number are written as
words.  Decimal digits of any script count.
-/

namespace BindingSync.Numeral.Binary64

open BindingSync.Text

/-- A sign at the front, and what follows. -/
def sign : List Char → Bool × List Char
  | '-' :: rest => (true, rest)
  | '+' :: rest => (false, rest)
  | text => (false, text)

/-- The exponent that a text behind a number writes; an empty text writes zero. -/
def exponent? : List Char → Option Int
  | [] => some 0
  | c :: rest =>
    let (negative, digits) := sign rest
    if (c = 'e' || c = 'E') && !digits.isEmpty && digits.all Char.isDigit then
      some (if negative then -(decimalNumber digits : Int) else decimalNumber digits)
    else none

/-- The number that digits, a point and an exponent write. -/
def decimal? (negative : Bool) (text : List Char) : Option Binary64 :=
  let whole := text.takeWhile Char.isDigit
  let rest := text.dropWhile Char.isDigit
  let (fraction, rest) := match rest with
    | '.' :: rest => (rest.takeWhile Char.isDigit, rest.dropWhile Char.isDigit)
    | rest => ([], rest)
  if whole.isEmpty && fraction.isEmpty then none
  else (exponent? rest).map fun power =>
    ofDecimal negative (decimalNumber (whole ++ fraction)) (power - fraction.length)

/-- The number that a text writes. -/
def ofText? (text : List Char) : Option Binary64 :=
  let (negative, unsigned) := sign (Integer.normalized text)
  let word := String.ofList (unsigned.map Char.toLower)
  if word = "inf" || word = "infinity" then some (infinite negative)
  else if word = "nan" then some nan
  else decimal? negative unsigned

end BindingSync.Numeral.Binary64
