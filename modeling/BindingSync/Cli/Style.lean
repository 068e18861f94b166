import BindingSync.Cli.Colour

/-!
# Marks of colours

A coloured text starts with the code of its colour and ends with the code that ends all
colours.  The text may hold such codes itself.  Behind an end inside the text the colour starts
again; the colour is ended in front of a part that stands between two codes for no style, and
in front of a line break, and started again behind it.
-/

namespace BindingSync.Cli

namespace Colour

/-- The code that starts a colour. -/
def start : Colour → String
  | red => "\x1b[31m"
  | green => "\x1b[32m"
  | yellow => "\x1b[33m"

/-- The code that ends a colour. -/
def finish : String := "\x1b[39m"

/-- The code for no style. -/
def plain : String := "\x1b[0m"

/-- Puts texts around the spans of a text.  The size of the span at the front is given by a
function, and is zero if there is none; the number says how much of a span is still open. -/
def surround (size : List Char → Nat) (before after : List Char) : Nat → List Char → List Char
  | _, [] => []
  | 0, c :: rest =>
    match size (c :: rest) with
    | 0 => c :: surround size before after 0 rest
    | 1 => before ++ c :: after ++ surround size before after 0 rest
    | n + 2 => before ++ c :: surround size before after (n + 1) rest
  | 1, c :: rest => c :: after ++ surround size before after 0 rest
  | n + 2, c :: rest => c :: surround size before after (n + 1) rest

/-- The size of the code that ends a colour at the front. -/
def finishSize (text : List Char) : Nat :=
  if finish.toList.isPrefixOf text then finish.length else 0

/-- The number of characters up to the end of the next code for no style on the line. -/
def plainEnd : List Char → Option Nat
  | [] => none
  | c :: rest =>
    if plain.toList.isPrefixOf (c :: rest) then some plain.length
    else if c = '\n' then none
    else (plainEnd rest).map (· + 1)

/-- The size of the part between two codes for no style at the front. -/
def plainSize (text : List Char) : Nat :=
  if plain.toList.isPrefixOf text then
    match plainEnd (text.drop plain.length) with
    | some size => plain.length + size
    | none => 0
  else 0

/-- The size of the line break at the front. -/
def breakSize : List Char → Nat
  | '\r' :: '\n' :: _ => 2
  | '\n' :: _ => 1
  | _ => 0

/-- A text in a colour. -/
def paint (colour : Colour) (text : String) : String :=
  let start := colour.start.toList
  let text := surround finishSize [] start 0 text.toList
  let text := surround plainSize finish.toList start 0 text
  let text := surround breakSize finish.toList start 0 text
  colour.start ++ String.ofList text ++ finish

end Colour

end BindingSync.Cli
