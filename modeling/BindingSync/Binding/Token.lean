/-!
# Tokens of a binding file

A token is a kind, the text it was written with and the position of its first character.
Class bodies may hold inline code, so a character that means nothing to the binding grammar
is a token of kind `symbol` and never an error.
-/

namespace BindingSync.Binding

/-- A place in a text.  Lines and columns count from one. -/
structure Position where
  line : Nat
  column : Nat
deriving DecidableEq, Repr, Inhabited

namespace Position

/-- The first place of a text. -/
def start : Position where
  line := 1
  column := 1

/-- The place after a character: only a line feed starts a new line. -/
def after (place : Position) (c : Char) : Position :=
  if c = '\n' then ⟨place.line + 1, 1⟩ else ⟨place.line, place.column + 1⟩

/-- The place after a run of characters. -/
def afterAll (place : Position) (text : List Char) : Position :=
  text.foldl after place

/-- A message about a place. -/
def describe (place : Position) (message : String) : String :=
  s!"Line {place.line}, column {place.column}: {message}"

@[simp] theorem afterAll_nil (place : Position) : place.afterAll [] = place := rfl

@[simp] theorem afterAll_cons (place : Position) (c : Char) (text : List Char) :
    place.afterAll (c :: text) = (place.after c).afterAll text := rfl

theorem afterAll_append (place : Position) (text more : List Char) :
    place.afterAll (text ++ more) = (place.afterAll text).afterAll more := by
  simp [afterAll]

end Position

/-- What a token is to the grammar. -/
inductive TokenKind where
  | classWord | constWord | inlineWord | virtualWord | staticWord | callbackWord
  | openBrace | closeBrace | openParen | closeParen | openAngle | closeAngle
  | openBracket | closeBracket
  | comma | semicolon | colon | scope | equals | star | ampersand | tilde
  | string | number | identifier | symbol
  /-- The end of the text. -/
  | eof
deriving DecidableEq, Repr, Inhabited

namespace TokenKind

/-- The kind of a word: a keyword or an identifier. -/
def ofWord : String → TokenKind
  | "class" => classWord
  | "const" => constWord
  | "inline" => inlineWord
  | "virtual" => virtualWord
  | "static" => staticWord
  | "callback" => callbackWord
  | _ => identifier

/-- The kind of a mark that is a token on its own.  A colon is not among them, because two of
them in a row are one token. -/
def ofMark? : Char → Option TokenKind
  | '{' => some openBrace
  | '}' => some closeBrace
  | '(' => some openParen
  | ')' => some closeParen
  | '<' => some openAngle
  | '>' => some closeAngle
  | '[' => some openBracket
  | ']' => some closeBracket
  | ',' => some comma
  | ';' => some semicolon
  | '=' => some equals
  | '*' => some star
  | '&' => some ampersand
  | '~' => some tilde
  | _ => none

end TokenKind

/-- A token with its text and the place where it starts. -/
structure Token where
  kind : TokenKind
  text : String
  position : Position
deriving DecidableEq, Repr, Inhabited

namespace Token

/-- The token that stands after the last one of a text. -/
def endAt (position : Position) : Token where
  kind := .eof
  text := ""
  position := position

end Token

end BindingSync.Binding
