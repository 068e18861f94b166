import BindingSync.Text.Ranges

/-!
# Blanks and line ends

Answers of a person are read without the blanks around them, where a blank is any white space
of Unicode or one of the four separators among the control characters.  Text files end their
lines in several ways; inside the program a line ends with a line feed.
-/

namespace BindingSync.Text

/-- White space and the separators among the controls. -/
def blankRanges : Ranges := [
  (0x9, 0xd), (0x1c, 0x20), (0x85, 0x85), (0xa0, 0xa0), (0x1680, 0x1680), (0x2000, 0x200a),
  (0x2028, 0x2029), (0x202f, 0x202f), (0x205f, 0x205f), (0x3000, 0x3000)]

/-- A blank. -/
def isBlank (c : Char) : Bool :=
  blankRanges.contains c.toNat

/-- A text without the characters of a class at both ends. -/
def stripWith (p : Char → Bool) (text : List Char) : List Char :=
  ((text.dropWhile p).reverse.dropWhile p).reverse

/-- A text without the blanks at both ends. -/
def strip (text : String) : String :=
  String.ofList (stripWith isBlank text.toList)

/-- A text with each line end, a carriage return with or without a line feed, written as a
line feed. -/
def unifyLineEnds : List Char → List Char
  | '\r' :: '\n' :: rest => '\n' :: unifyLineEnds rest
  | '\r' :: rest => '\n' :: unifyLineEnds rest
  | c :: rest => c :: unifyLineEnds rest
  | [] => []

end BindingSync.Text
