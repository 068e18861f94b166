import BindingSync.Text.Digits
import BindingSync.Yaml.Moment
import BindingSync.Yaml.Tag

/-!
# The tags of plain scalars

A plain scalar without a tag gets one from its form.  It is null, a truth value, an integer, a
floating-point number, a date or a timestamp if it is written like one, and a text otherwise.
Underscores may stand among the digits of a number.  Integers are decimal, hexadecimal behind
`0x`, binary behind `0b`, octal behind a zero, or sexagesimal with colons; a floating-point
number has a point and, if it has an exponent, a sign in it.
-/

namespace BindingSync.Yaml.Plain

open BindingSync.Text (hexDigit?)

/-- The words for null. -/
def nullWords : List String := ["", "~", "null", "Null", "NULL"]

/-- The words for truth values. -/
def boolWords : List String :=
  ["yes", "Yes", "YES", "no", "No", "NO", "true", "True", "TRUE", "false", "False", "FALSE",
    "on", "On", "ON", "off", "Off", "OFF"]

/-- The words that neither are texts nor have another value. -/
def reservedWords : List String := ["!", "&", "*"]

/-- A digit or an underscore. -/
def isDigitMark (c : Char) : Bool :=
  c.isDigit || c = '_'

/-- A text without the sign in front of it. -/
def withoutSign : List Char → List Char
  | '-' :: rest => rest
  | '+' :: rest => rest
  | text => text

/-- A digit, and digits and underscores behind it. -/
def isDigits (text : List Char) : Bool :=
  text.head?.any Char.isDigit && text.all isDigitMark

/-- The pieces of a text between colons. -/
def colonPieces : List Char → List Char × List (List Char)
  | [] => ([], [])
  | c :: rest =>
    let (piece, pieces) := colonPieces rest
    if c = ':' then ([], piece :: pieces) else (c :: piece, pieces)

/-- A sexagesimal place behind the first one: at most two digits below sixty. -/
def isSixty : List Char → Bool
  | [c] => c.isDigit
  | [c, d] => '0' ≤ c && c ≤ '5' && d.isDigit
  | _ => false

/-- At least two sexagesimal places. -/
def isSixties (text : List Char) : Bool :=
  match colonPieces text with
  | (_, []) => false
  | (first, rest) => isDigits first && rest.all isSixty

/-- The form of an integer without its sign. -/
def isUnsignedInt (text : List Char) : Bool :=
  match text with
  | '0' :: 'b' :: rest => !rest.isEmpty && rest.all fun c => c = '0' || c = '1' || c = '_'
  | '0' :: 'x' :: rest => !rest.isEmpty && rest.all fun c => (hexDigit? c).isSome || c = '_'
  | '0' :: rest => rest.all fun c => ('0' ≤ c && c ≤ '7') || c = '_'
  | text => isDigits text || isSixties text

/-- The form of an integer. -/
def isInt (text : List Char) : Bool :=
  isUnsignedInt (withoutSign text)

/-- The exponent of a number, whose sign has to be written; it may be left out. -/
def isExponent : List Char → Bool
  | [] => true
  | e :: s :: digits =>
    (e = 'e' || e = 'E') && (s = '+' || s = '-') && !digits.isEmpty && digits.all Char.isDigit
  | _ => false

/-- Digits and underscores, and an exponent behind them. -/
def isFraction (text : List Char) : Bool :=
  isExponent (text.dropWhile isDigitMark)

/-- The form of a floating-point number. -/
def isFloat (text : List Char) : Bool :=
  let unsigned := withoutSign text
  let whole := unsigned.takeWhile (· != '.')
  match unsigned.drop whole.length with
  | [] => false
  | _ :: rest =>
    if whole.isEmpty then
      ["inf", "Inf", "INF"].contains (String.ofList rest) ||
        (unsigned = text && (["nan", "NaN", "NAN"].contains (String.ofList rest) ||
          (rest.head?.any Char.isDigit && isFraction rest)))
    else
      (isDigits whole && isFraction rest) || (isSixties whole && rest.all isDigitMark)

/-- A text without a line feed at its end. -/
def withoutLastBreak (text : List Char) : List Char :=
  if text.getLast? = some '\n' then text.dropLast else text

/-- The tag of a plain scalar.  A line feed at the end of its content does not matter, unless
there is nothing else. -/
def tagOf (content : String) : Tag :=
  let text := withoutLastBreak content.toList
  let word := String.ofList text
  if content = "\n" then .text
  else if boolWords.contains word then .bool
  else if isFloat text then .float
  else if isInt text then .int
  else if word = "<<" then .merge
  else if nullWords.contains word then .null
  else if Moment.isWritten text then .timestamp
  else if word = "=" then .defaultValue
  else if reservedWords.contains word then .other (Tag.coreBeginning ++ "yaml")
  else .text

end BindingSync.Yaml.Plain
