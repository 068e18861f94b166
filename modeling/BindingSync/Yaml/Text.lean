/-!
# Texts with a place

Indentation means something in YAML, so a reader has to know the line and the column that it
has reached.  A text keeps what is left to read together with the place of its first
character.  There are five characters that end a line; a carriage return and the line feed
behind it end one line.
-/

namespace BindingSync.Yaml

/-- A place in a text.  All counts start at zero. -/
structure Place where
  index : Nat := 0
  line : Nat := 0
  column : Nat := 0
deriving DecidableEq, Repr, Inhabited

/-- What is left of a text, and the place that it starts at. -/
structure Text where
  rest : List Char
  place : Place := {}
deriving DecidableEq, Repr, Inhabited

/-- The character ends a line. -/
def isBreak (c : Char) : Bool :=
  c = '\n' || c = '\r' || c = '\x85' || c = '\u2028' || c = '\u2029'

/-- The character is a line end, a space or a tab. -/
def isSpace (c : Char) : Bool :=
  c = ' ' || c = '\t' || isBreak c

/-- There is no character, or one that ends a line. -/
def endsLine (c : Option Char) : Bool :=
  c.all isBreak

/-- There is no character, or a line end, a space or a tab. -/
def endsWord (c : Option Char) : Bool :=
  c.all isSpace

/-- There is no character, or a line end or a space. -/
def endsTag (c : Option Char) : Bool :=
  c.all fun c => c = ' ' || isBreak c

/-- The character may stand in a text. -/
def isAllowed (c : Char) : Bool :=
  let n := c.toNat
  c = '\t' || c = '\n' || c = '\r' || c = '\x85' || (0x20 ≤ n && n ≤ 0x7e) ||
    (0xa0 ≤ n && n ≤ 0xd7ff) || (0xe000 ≤ n && n ≤ 0xfffd) || 0x10000 ≤ n

namespace Place

/-- The place after a character, given the one that follows it. -/
def after (place : Place) (c : Char) (next : Option Char) : Place :=
  if isBreak c && !(c = '\r' && next = some '\n') then ⟨place.index + 1, place.line + 1, 0⟩
  else ⟨place.index + 1, place.line, if c = '\uFEFF' then place.column else place.column + 1⟩

end Place

namespace Text

/-- The character at a distance. -/
def peek (text : Text) (distance : Nat := 0) : Option Char :=
  text.rest[distance]?

/-- The text behind its first character. -/
def next (text : Text) : Text :=
  match text.rest with
  | [] => text
  | c :: rest => ⟨rest, text.place.after c rest.head?⟩

/-- The text behind a number of characters. -/
def skip (text : Text) : Nat → Text
  | 0 => text
  | count + 1 => text.next.skip count

/-- The characters of a class at the front, and the text behind them. -/
def span (p : Char → Bool) (text : Text) : List Char × Text :=
  let taken := text.rest.takeWhile p
  (taken, text.skip taken.length)

/-- The text behind the characters of a class. -/
def dropWhile (p : Char → Bool) (text : Text) : Text :=
  (text.span p).2

/-- The text behind spaces. -/
def skipSpaces (text : Text) : Text :=
  text.dropWhile (· = ' ')

/-- The text from the end of the line on. -/
def skipLine (text : Text) : Text :=
  text.dropWhile fun c => !isBreak c

/-- The line end at the front and the text behind it.  Of the five line ends, three are read
as a line feed. -/
def lineBreak? (text : Text) : Option (Char × Text) :=
  match text.rest with
  | '\r' :: '\n' :: _ => some ('\n', text.skip 2)
  | c :: _ =>
    if c = '\n' || c = '\r' || c = '\x85' then some ('\n', text.next)
    else if isBreak c then some (c, text.next)
    else none
  | [] => none

/-- The text behind the end of a line on which nothing is left but spaces and a comment. -/
def endOfLine? (text : Text) : Option Text :=
  let text := text.skipSpaces
  let text := if text.peek = some '#' then text.skipLine else text
  match text.lineBreak? with
  | some (_, text) => some text
  | none => if text.rest.isEmpty then some text else none

/-- Three characters with an end of a word behind them stand at the front. -/
def hasMark (text : Text) (c : Char) : Bool :=
  match text.rest with
  | a :: b :: d :: rest => a = c && b = c && d = c && endsWord rest.head?
  | _ => false

/-- A line of the text that separates documents stands at the front. -/
def hasDocumentMark (text : Text) : Bool :=
  text.hasMark '-' || text.hasMark '.'

end Text

end BindingSync.Yaml
