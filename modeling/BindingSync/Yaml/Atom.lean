import BindingSync.Numeral.Quantity
import BindingSync.Numeral.Shortest
import BindingSync.Text.Integer
import BindingSync.Text.Quoted
import BindingSync.Yaml.Moment

/-!
# Atoms

The values of scalars.  Only atoms can be keys of mappings.  Truth values are quantities, zero
and one, and keys that are the same quantity are the same key, however they are written.

There is one value that is no number, which has a word of its own.  Conversions and sums may
also come to nothing, each time at some node, and what comes of it is a key of its own.
-/

namespace BindingSync.Yaml

open BindingSync.Numeral (Binary64 Quantity)
open BindingSync.Text

/-- A value that has no parts. -/
inductive Atom where
  | null
  | bool (value : Bool)
  | int (value : Int)
  | float (value : Binary64)
  /-- What comes of a conversion at a node that gives no number. -/
  | noNumber (node : Nat)
  | binary (bytes : List UInt8)
  | moment (value : Moment)
  | text (value : WideString)
deriving DecidableEq, Repr, Inhabited

namespace Atom

/-- The quantity of an atom, if it has one. -/
def quantity? : Atom → Option Quantity
  | bool value => some (.ofBool value)
  | int value => some (.whole value)
  | float value => some (.real value)
  | noNumber _ => some (.real .nan)
  | _ => none

/-- Two atoms are the same key. -/
def same : Atom → Atom → Bool
  | null, null => true
  | text a, text b => a = b
  | binary a, binary b => a = b
  | moment a, moment b => a.same b
  | noNumber a, noNumber b => a = b
  | noNumber _, _ => false
  | _, noNumber _ => false
  | a, b =>
    match a.quantity?, b.quantity? with
    | some x, some y => x.same y
    | _, _ => false

/-- The order of bytes, the first difference deciding. -/
def bytesLt : List UInt8 → List UInt8 → Bool
  | _, [] => false
  | [], _ :: _ => true
  | a :: as, b :: bs => a < b || (a = b && bytesLt as bs)

/-- An atom is below another one, if there is an order between them. -/
def lt? (a b : Atom) : Option Bool :=
  match a.quantity?, b.quantity? with
  | some x, some y => some (x.lt y)
  | none, none =>
    match a, b with
    | text x, text y => some (x < y)
    | binary x, binary y => some (bytesLt x y)
    | moment x, moment y => x.lt? y
    | _, _ => none
  | _, _ => none

/-- One byte inside the given quotes. -/
def describeByte (quote : Char) (byte : UInt8) : List Char :=
  let c := Char.ofNat byte.toNat
  if 0x20 ≤ byte && byte < 0x7f then Quoted.encodeChar quote c
  else if c = '\n' || c = '\r' || c = '\t' then Quoted.encodeChar quote c
  else Quoted.encodeNumber byte.toNat

/-- The form of bytes in messages: quoted, all but printable characters of ASCII escaped. -/
def describeBytes (bytes : List UInt8) : String :=
  let quote := Quoted.quoteFor (bytes.map fun byte => .char (Char.ofNat byte.toNat))
  String.ofList ('b' :: quote :: bytes.flatMap (describeByte quote) ++ [quote])

/-- The form of an atom in messages; an integer of too many digits has none. -/
def describe? : Atom → Option String
  | null => some "None"
  | bool value => some (if value then "True" else "False")
  | int value => Integer.render? value
  | float value => some value.render
  | noNumber _ => some Binary64.nan.render
  | binary bytes => some (describeBytes bytes)
  | moment value => some value.describe
  | text value => some (quoted value)

end Atom

end BindingSync.Yaml
