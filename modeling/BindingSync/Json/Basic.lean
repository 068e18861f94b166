import BindingSync.Numeral.Quantity
import BindingSync.Numeral.Shortest
import BindingSync.Text.Quoted

/-!
# JSON values

Objects keep their fields in writing order.  Numbers without a fraction and an exponent are
integers of any size; the others are floating-point numbers, among which the infinities and
the value that is no number may stand.
-/

namespace BindingSync

open BindingSync.Text
open BindingSync.Numeral (Binary64 Quantity)

/-- A JSON value. -/
inductive Json where
  | null
  | bool (value : Bool)
  | int (value : Int)
  | float (value : Binary64)
  | string (value : WideString)
  | array (items : List Json)
  | object (fields : List (WideString × Json))
deriving Repr, Inhabited

namespace Json

/-- Adds a field behind the others.  A name that is there already keeps its place and gets the
new value. -/
def setField (fields : List (WideString × Json)) (name : WideString) (value : Json) :
    List (WideString × Json) :=
  match fields with
  | [] => [(name, value)]
  | (other, old) :: rest =>
    if other = name then (name, value) :: rest else (other, old) :: setField rest name value

/-- The members of an array, the names of an object, or the code points of a string. -/
def members? : Json → Option (List Json)
  | array items => some items
  | object fields => some (fields.map fun field => .string field.1)
  | string text => some (text.points.map fun point => .string (.ofPoints [point]))
  | _ => none

/-- The value counts as true: it is neither null, false, zero nor empty. -/
def isTruthy : Json → Bool
  | null => false
  | bool value => value
  | int value => value != 0
  | float (.finite _ mantissa _) => mantissa != 0
  | float _ => true
  | string text => text != .plain ""
  | array items => !items.isEmpty
  | object fields => !fields.isEmpty

/-- A value without parts; only such values can be keys. -/
def isAtom : Json → Bool
  | array _ => false
  | object _ => false
  | _ => true

/-- The quantity that a value is; truth values are zero and one. -/
def quantity? : Json → Option Quantity
  | bool value => some (.ofBool value)
  | int value => some (.whole value)
  | float value => some (.real value)
  | _ => none

/-- Two values without parts are the same key. -/
def sameKey : Json → Json → Bool
  | null, null => true
  | string a, string b => a = b
  | a, b =>
    match a.quantity?, b.quantity? with
    | some x, some y => x.same y
    | _, _ => false

/-- Two lists of values without parts are the same, key by key. -/
def sameKeys : List Json → List Json → Bool
  | [], [] => true
  | a :: as, b :: bs => a.sameKey b && sameKeys as bs
  | _, _ => false

mutual

/-- The form of a value in messages. -/
def describe : Json → String
  | null => "None"
  | bool true => "True"
  | bool false => "False"
  | int value => toString value
  | float value => value.render
  | string text => quoted text
  | array items => "[" ++ ", ".intercalate (describeItems items) ++ "]"
  | object fields => "\x7b" ++ ", ".intercalate (describeFields fields) ++ "\x7d"

/-- The forms of the items of an array. -/
def describeItems : List Json → List String
  | [] => []
  | item :: items => describe item :: describeItems items

/-- The forms of the fields of an object. -/
def describeFields : List (WideString × Json) → List String
  | [] => []
  | (name, value) :: fields => (quoted name ++ ": " ++ describe value) :: describeFields fields

end

/-- The form of a fixed sequence of values in messages; a single value is followed by a
comma. -/
def describeTuple : List Json → String
  | [value] => "(" ++ describe value ++ ",)"
  | values => "(" ++ ", ".intercalate (values.map describe) ++ ")"

end Json

end BindingSync
