import BindingSync.Json.Basic
import BindingSync.Text.Integer

/-!
# Writing JSON

Values are written over several lines with two spaces per level, one item or field on each
line; empty arrays and objects stay on their line.  Only printable ASCII characters are
written as they are, so a written text is the same in every encoding.  A value that holds an
integer of too many digits is not to be written.
-/

namespace BindingSync.Json

open BindingSync.Text
open BindingSync.Numeral (Binary64)

namespace Printer

/-- The escape for a 16-bit unit. -/
def encodeUnit (n : Nat) : List Char :=
  '\\' :: 'u' :: hexPadded 4 n

/-- One character of a string.  Characters beyond the basic plane are written as the two units
of a surrogate pair. -/
def encodeChar (c : Char) : List Char :=
  if c = '"' then ['\\', '"']
  else if c = '\\' then ['\\', '\\']
  else if c = '\n' then ['\\', 'n']
  else if c = '\r' then ['\\', 'r']
  else if c = '\t' then ['\\', 't']
  else if c = '\x08' then ['\\', 'b']
  else if c = '\x0c' then ['\\', 'f']
  else if 32 ≤ c.toNat ∧ c.toNat < 127 then [c]
  else if c.toNat < 0x10000 then encodeUnit c.toNat
  else
    let offset := c.toNat - 0x10000
    encodeUnit (0xd800 + offset / 0x400) ++ encodeUnit (0xdc00 + offset % 0x400)

/-- One code point of a string. -/
def encodePoint : Point → List Char
  | .char c => encodeChar c
  | point => encodeUnit point.toNat

/-- A string between its quotes. -/
def encodeString (text : WideString) : List Char :=
  '"' :: text.points.flatMap encodePoint ++ ['"']

/-- A floating-point number; the values that are no finite number have names. -/
def encodeFloat : Binary64 → List Char
  | .infinite negative => (if negative then ['-'] else []) ++ "Infinity".toList
  | .nan => "NaN".toList
  | x => x.render.toList

/-- A new line at a level. -/
def lineBreak (level : Nat) : List Char :=
  '\n' :: List.replicate (2 * level) ' '

end Printer

open Printer

mutual

/-- A value whose first line stands at a level. -/
def renderAt (level : Nat) : Json → List Char
  | null => "null".toList
  | bool true => "true".toList
  | bool false => "false".toList
  | int value => (toString value).toList
  | float value => encodeFloat value
  | string text => encodeString text
  | array [] => "[]".toList
  | array (item :: items) =>
    '[' :: lineBreak (level + 1) ++ renderAt (level + 1) item ++ renderItems (level + 1) items ++
      lineBreak level ++ [']']
  | object [] => "\x7b\x7d".toList
  | object ((name, value) :: fields) =>
    '\x7b' :: lineBreak (level + 1) ++ encodeString name ++ [':', ' '] ++
      renderAt (level + 1) value ++ renderFields (level + 1) fields ++ lineBreak level ++ ['\x7d']

/-- The items behind the first one of an array. -/
def renderItems (level : Nat) : List Json → List Char
  | [] => []
  | item :: items => ',' :: lineBreak level ++ renderAt level item ++ renderItems level items

/-- The fields behind the first one of an object. -/
def renderFields (level : Nat) : List (WideString × Json) → List Char
  | [] => []
  | (name, value) :: fields =>
    ',' :: lineBreak level ++ encodeString name ++ [':', ' '] ++ renderAt level value ++
      renderFields level fields

end

mutual

/-- Every integer in a value is short enough to be written. -/
def isWritable : Json → Bool
  | int value => Integer.isWritable value
  | array items => areWritable items
  | object fields => haveWritable fields
  | _ => true

/-- Every integer in some values is short enough to be written. -/
def areWritable : List Json → Bool
  | [] => true
  | item :: items => isWritable item && areWritable items

/-- Every integer in some fields is short enough to be written. -/
def haveWritable : List (WideString × Json) → Bool
  | [] => true
  | (_, value) :: fields => isWritable value && haveWritable fields

end

/-- The text of a value. -/
def render (value : Json) : String :=
  String.ofList (renderAt 0 value)

end BindingSync.Json
