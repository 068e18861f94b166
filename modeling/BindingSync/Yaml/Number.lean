import BindingSync.Crash
import BindingSync.Numeral.Reading
import BindingSync.Yaml.Plain

/-!
# The values of numbers

The value of a number is found from its text alone, which need not have the form of a plain
scalar: a scalar with a tag may hold anything.  Underscores do not count.  A text that is no
number after all ends the program.
-/

namespace BindingSync.Yaml.Number

open BindingSync.Numeral (Binary64)
open BindingSync.Text

/-- The characters of a number, without underscores. -/
def digitsOf (content : String) : List Char :=
  content.toList.filter (· != '_')

/-- Goes on with a value, or ends the program because a text has none. -/
def orUnacceptable {α : Type} : Option α → Except Crash α
  | some value => .ok value
  | none => .error .unacceptable

/-- The sum of sexagesimal places. -/
def sixties (places : List Int) : Int :=
  places.foldl (fun value place => value * 60 + place) 0

/-- The pieces of a text between colons. -/
def pieces (text : List Char) : List (List Char) :=
  let (first, rest) := Plain.colonPieces text
  first :: rest

/-- The integer of a text without its first sign. -/
def unsignedInt (text : List Char) : Except Crash Int :=
  match text with
  | [] => .error .outOfRange
  | '0' :: 'b' :: rest => orUnacceptable (Integer.inBase? 2 rest)
  | '0' :: 'x' :: rest => orUnacceptable (Integer.inBase? 16 rest)
  | '0' :: _ => orUnacceptable (Integer.inBase? 8 text)
  | text =>
    if text.contains ':' then
      orUnacceptable (((pieces text).mapM (Integer.inBase? 10)).map sixties)
    else orUnacceptable (Integer.inBase? 10 text)

/-- The integer that a text stands for. -/
def int (content : String) : Except Crash Int :=
  match digitsOf content with
  | [] => .error .outOfRange
  | '-' :: rest => (unsignedInt rest).map fun value => -value
  | text => unsignedInt (Plain.withoutSign text)

/-- The sum of sexagesimal places, the last one first, each counted in units of a power of
sixty.  Every product and every sum is rounded; the units have to be in the range of the
format. -/
def sixtiesSum (sum : Binary64) (unit : Nat) : List Binary64 → Except Crash Binary64
  | [] => .ok sum
  | place :: rest =>
    match Binary64.ofInt unit with
    | .infinite _ => .error .overflow
    | factor => sixtiesSum (sum.add (place.mul factor)) (unit * 60) rest

/-- The floating-point number of a text without its first sign. -/
def unsignedFloat (text : List Char) : Except Crash Binary64 :=
  let word := String.ofList (text.map Char.toLower)
  if word = ".inf" then .ok (.infinite false)
  else if word = ".nan" then .ok .nan
  else if text.contains ':' then do
    let places ← orUnacceptable ((pieces text).mapM Binary64.ofText?)
    sixtiesSum (.zero false) 1 places.reverse
  else orUnacceptable (Binary64.ofText? text)

/-- The text is the word for the value that is no number; a sign may stand in front of it. -/
def isNoNumberWord (content : String) : Bool :=
  (Plain.withoutSign (digitsOf content)).map Char.toLower = ".nan".toList

/-- The floating-point number that a text stands for. -/
def float (content : String) : Except Crash Binary64 :=
  match digitsOf content with
  | [] => .error .outOfRange
  | '-' :: rest => (unsignedFloat rest).map Binary64.neg
  | text => unsignedFloat (Plain.withoutSign text)

end BindingSync.Yaml.Number
