import BindingSync.Text.Digits
import BindingSync.Text.Printable
import BindingSync.Text.WideString

/-!
# Quoted texts

Messages quote a text so that it stays on one line and its ends are visible.  The quote is an
apostrophe, unless the text holds apostrophes and no double quotes.  The quote in use and the
backslash are escaped, line breaks and tabs are named, and any other character that is not
printable is written by its code point in two, four or eight hexadecimal digits, and so is the
half of a surrogate pair.
-/

namespace BindingSync.Text

namespace Quoted

/-- The quote that surrounds a text. -/
def quoteFor (text : List Point) : Char :=
  if text.contains (.char '\'') && !text.contains (.char '"') then '"' else '\''

/-- A code point by its number. -/
def encodeNumber (n : Nat) : List Char :=
  if n < 0x100 then '\\' :: 'x' :: hexPadded 2 n
  else if n < 0x10000 then '\\' :: 'u' :: hexPadded 4 n
  else '\\' :: 'U' :: hexPadded 8 n

/-- One character inside the given quotes. -/
def encodeChar (quote c : Char) : List Char :=
  if c = quote || c = '\\' then ['\\', c]
  else if c = '\n' then ['\\', 'n']
  else if c = '\r' then ['\\', 'r']
  else if c = '\t' then ['\\', 't']
  else if isPrintable c then [c]
  else encodeNumber c.toNat

/-- One code point inside the given quotes. -/
def encodePoint (quote : Char) : Point → List Char
  | .char c => encodeChar quote c
  | point => encodeNumber point.toNat

/-- A text between its quotes. -/
def encode (text : List Point) : List Char :=
  let quote := quoteFor text
  quote :: text.flatMap (encodePoint quote) ++ [quote]

end Quoted

/-- The quoted form of a text. -/
def quoted (text : WideString) : String :=
  String.ofList (Quoted.encode text.points)

end BindingSync.Text
