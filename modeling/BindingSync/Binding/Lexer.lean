import BindingSync.Binding.Token
import BindingSync.Text.Letter
import BindingSync.Text.Numeral

/-!
# Reading a text as tokens

The lexer takes one piece after the other off the front of the text: a blank, a comment or a
token.  What a piece is depends on the text that is left and on nothing else, and a piece
together with what is left after it is the text it was taken from (`Piece.of_text`).  The
place of a piece is the place reached by the characters before it.
-/

namespace BindingSync.Binding

open BindingSync.Text

/-- What is never closed. -/
inductive LexFault where
  | blockComment
  | stringLiteral
deriving DecidableEq, Repr, Inhabited

/-- A comment or a literal that is never closed, with the place where it starts. -/
structure LexError where
  fault : LexFault
  position : Position
deriving DecidableEq, Repr, Inhabited

namespace LexError

/-- The wording of the error. -/
def message (error : LexError) : String :=
  error.position.describe <|
    match error.fault with
    | .blockComment => "Unterminated block comment"
    | .stringLiteral => "Unterminated string literal"

end LexError

/-- The blanks between tokens. -/
def isBlank (c : Char) : Bool :=
  c = ' ' || c = '\t' || c = '\r' || c = '\n'

/-- A word starts with a letter or an underscore. -/
def startsWord (c : Char) : Bool :=
  isLetter c || c = '_'

/-- A word goes on with letters, numerals and underscores. -/
def continuesWord (c : Char) : Bool :=
  isLetter c || isNumeral c || c = '_'

/-- A number goes on like a word, and also with points. -/
def continuesNumber (c : Char) : Bool :=
  continuesWord c || c = '.'

/-- A piece of text that was taken off the front; blanks and comments have no kind. -/
structure Piece where
  kind : Option TokenKind
  text : List Char
  rest : List Char
deriving DecidableEq, Repr, Inhabited

namespace Piece

/-- The text up to and including the end of a block comment, and what follows. -/
def comment : List Char → Option (List Char × List Char)
  | '*' :: '/' :: rest => some (['*', '/'], rest)
  | c :: rest => (comment rest).map fun (body, rest) => (c :: body, rest)
  | [] => none

/-- The text up to and including the closing quote of a literal, and what follows.  A
backslash takes the next character with it, whatever that is; a bare line feed ends the
search. -/
def literal (quote : Char) : List Char → Option (List Char × List Char)
  | [] => none
  | '\\' :: c :: rest => (literal quote rest).map fun (body, rest) => ('\\' :: c :: body, rest)
  | c :: rest =>
    if c = quote then some ([c], rest)
    else if c = '\n' then none
    else (literal quote rest).map fun (body, rest) => (c :: body, rest)

/-- The longest run of characters of a class, as a piece that starts with the given one. -/
def run (kind : List Char → Option TokenKind) (p : Char → Bool) (c : Char) (text : List Char) :
    Piece where
  kind := kind (c :: text.takeWhile p)
  text := c :: text.takeWhile p
  rest := text.dropWhile p

/-- One character that is a token. -/
def mark (kind : TokenKind) (c : Char) (text : List Char) : Piece where
  kind := some kind
  text := [c]
  rest := text

/-- The first token of a text that starts with neither a blank nor a comment. -/
def token (c : Char) (text : List Char) : Except LexFault Piece :=
  match c, text with
  | ':', ':' :: rest => .ok ⟨some .scope, [':', ':'], rest⟩
  | ':', rest => .ok (mark .colon ':' rest)
  | c, text =>
    match TokenKind.ofMark? c with
    | some kind => .ok (mark kind c text)
    | none =>
      if c = '"' || c = '\'' then
        match literal c text with
        | some (body, rest) => .ok ⟨some .string, c :: body, rest⟩
        | none => .error .stringLiteral
      else if isDigit c then
        .ok (run (fun _ => some .number) continuesNumber c text)
      else if startsWord c then
        .ok (run (fun word => some (.ofWord (String.ofList word))) continuesWord c text)
      else
        .ok (mark .symbol c text)

/-- The first piece of a text that is not empty. -/
def first (c : Char) (text : List Char) : Except LexFault Piece :=
  if isBlank c then
    .ok ⟨none, [c], text⟩
  else
    match c, text with
    | '/', '/' :: rest => .ok (run (fun _ => none) (fun d => d != '\n') '/' ('/' :: rest))
    | '/', '*' :: rest =>
      match comment rest with
      | some (body, rest) => .ok ⟨none, '/' :: '*' :: body, rest⟩
      | none => .error .blockComment
    | c, text => token c text

theorem comment_append {text body rest : List Char} (h : comment text = some (body, rest)) :
    text = body ++ rest := by
  fun_induction comment text generalizing body with
  | case1 r => cases h; rfl
  | case2 c r _ ih =>
    obtain ⟨⟨b, s⟩, hb, he⟩ := Option.map_eq_some_iff.1 h
    cases he
    simp [ih hb]
  | case3 => simp at h

theorem literal_append {quote : Char} {text body rest : List Char}
    (h : literal quote text = some (body, rest)) : text = body ++ rest := by
  fun_induction literal quote text generalizing body with
  | case1 => simp at h
  | case2 c r ih =>
    obtain ⟨⟨b, s⟩, hb, he⟩ := Option.map_eq_some_iff.1 h
    cases he
    simp [ih hb]
  | case3 r _ => cases h; rfl
  | case4 r _ _ => simp at h
  | case5 c r _ _ _ ih =>
    obtain ⟨⟨b, s⟩, hb, he⟩ := Option.map_eq_some_iff.1 h
    cases he
    simp [ih hb]

/-- A piece is the front of the text that it was taken from, and it is not empty. -/
def Fronts (piece : Piece) (c : Char) (text : List Char) : Prop :=
  ∃ more, piece.text = c :: more ∧ text = more ++ piece.rest

theorem run_fronts (kind : List Char → Option TokenKind) (p : Char → Bool) (c : Char)
    (text : List Char) : (run kind p c text).Fronts c text :=
  ⟨text.takeWhile p, rfl, (List.takeWhile_append_dropWhile).symm⟩

theorem mark_fronts (kind : TokenKind) (c : Char) (text : List Char) :
    (mark kind c text).Fronts c text :=
  ⟨[], rfl, rfl⟩

theorem token_fronts {c : Char} {text : List Char} {piece : Piece}
    (h : token c text = .ok piece) : piece.Fronts c text := by
  unfold token at h
  split at h
  · cases h; exact ⟨[':'], rfl, rfl⟩
  · cases h; exact mark_fronts _ _ _
  · split at h
    · cases h; exact mark_fronts _ _ _
    · split at h
      · split at h
        · next hl => cases h; exact ⟨_, rfl, literal_append hl⟩
        · cases h
      · split at h
        · cases h; exact run_fronts _ _ _ _
        · split at h
          · cases h; exact run_fronts _ _ _ _
          · cases h; exact mark_fronts _ _ _

theorem first_fronts {c : Char} {text : List Char} {piece : Piece}
    (h : first c text = .ok piece) : piece.Fronts c text := by
  unfold first at h
  split at h
  · cases h; exact ⟨[], rfl, rfl⟩
  · split at h
    · cases h; exact run_fronts _ _ _ _
    · split at h
      · next hc => cases h; exact ⟨_, rfl, by simp [comment_append hc]⟩
      · cases h
    · exact token_fronts h

theorem Fronts.length_rest {piece : Piece} {c : Char} {text : List Char}
    (h : piece.Fronts c text) : piece.rest.length ≤ text.length := by
  obtain ⟨more, -, rfl⟩ := h
  simp

end Piece

/-- The token that a piece at a place is, if it is one. -/
def Piece.token? (piece : Piece) (position : Position) : Option Token :=
  piece.kind.map fun kind => ⟨kind, String.ofList piece.text, position⟩

/-- Reads the text from a place on, after the given tokens, of which the last one read comes
first. -/
def lexFrom (read : List Token) (position : Position) : List Char → Except LexError (List Token)
  | [] => .ok (Token.endAt position :: read).reverse
  | c :: text =>
    match _h : Piece.first c text with
    | .error fault => .error ⟨fault, position⟩
    | .ok piece =>
      lexFrom ((piece.token? position).toList ++ read) (position.afterAll piece.text) piece.rest
termination_by text => text.length
decreasing_by
  have := (Piece.first_fronts _h).length_rest
  simp only [List.length_cons]
  omega

/-- The tokens of a text, ended by the token for its end. -/
def tokenize (source : String) : Except LexError (List Token) :=
  lexFrom [] Position.start source.toList

end BindingSync.Binding
