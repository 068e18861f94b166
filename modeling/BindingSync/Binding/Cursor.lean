import BindingSync.Binding.Grammar
import BindingSync.Text.Place

/-!
# Cursors

A cursor is a place in a list of tokens that ends with the token for the end of the text.  A
cursor may be set to any place: a negative one counts from the end of the list, and at a
place outside the list there is no token.  A rule is applied to the tokens from the cursor on
and moves it over what the rule took.
-/

namespace BindingSync.Binding

/-- A place in a list of tokens. -/
structure Cursor where
  tokens : List Token
  position : Int := 0
deriving Repr, Inhabited

namespace Cursor

/-- The place of the last token. -/
def last (cursor : Cursor) : Int :=
  cursor.tokens.length - 1

/-- The number of tokens from the cursor on. -/
def ahead (cursor : Cursor) : Nat :=
  (cursor.tokens.length - cursor.position).toNat

/-- The token at a place. -/
def tokenAt? (cursor : Cursor) (place : Int) : Option Token :=
  (Text.indexOf? cursor.tokens.length place).bind (cursor.tokens[·]?)

/-- The token under the cursor. -/
def current? (cursor : Cursor) : Option Token :=
  cursor.tokenAt? cursor.position

/-- The token at a distance, and the last token for any greater distance. -/
def peek? (cursor : Cursor) (distance : Int) : Option Token :=
  cursor.tokenAt? (min (cursor.position + distance) cursor.last)

/-- The token under the cursor is the end of the text. -/
def atEnd? (cursor : Cursor) : Option Bool :=
  cursor.current?.map (·.kind = .eof)

/-- The token under the cursor is of one of the kinds. -/
def check? (cursor : Cursor) (kinds : List TokenKind) : Option Bool :=
  cursor.current?.map fun token => kinds.contains token.kind

/-- The cursor at another place. -/
def reset (cursor : Cursor) (place : Int) : Cursor :=
  { cursor with position := place }

/-- The cursor one token on; it stays at the last token. -/
def next (cursor : Cursor) : Cursor :=
  if cursor.position < cursor.last then cursor.reset (cursor.position + 1) else cursor

/-- Takes the token under the cursor. -/
def advance? (cursor : Cursor) : Option (Token × Cursor) :=
  cursor.current?.map fun token => (token, cursor.next)

/-- Takes the token under the cursor if it is of one of the kinds. -/
def matchKinds? (cursor : Cursor) (kinds : List TokenKind) : Option (Option Token × Cursor) :=
  cursor.current?.map fun token =>
    if kinds.contains token.kind then (some token, cursor.next) else (none, cursor)

/-- The tokens from the cursor on, without the one for the end of the text. -/
def remaining? (cursor : Cursor) : Option (List Token) :=
  (Text.indexOf? cursor.tokens.length cursor.position).map fun index =>
    cursor.tokens.dropLast.drop index

/-- The cursor after the tokens that are no longer among those left. -/
def afterTaking (cursor : Cursor) (tokens rest : List Token) : Cursor :=
  cursor.reset (cursor.position + (tokens.length - rest.length))

/-- Applies a rule.  A rule that does not match leaves the cursor where it is. -/
def runRule? {α : Type} (cursor : Cursor) (rule : Rule α) : Option (Option α × Cursor) :=
  cursor.remaining?.map fun tokens =>
    match rule.parse tokens with
    | some (value, rest) => (some value, cursor.afterTaking tokens rest)
    | none => (none, cursor)

/-- Passes over a block in braces. -/
def skipBlock? (cursor : Cursor) : Option Cursor :=
  cursor.remaining?.map fun tokens =>
    cursor.afterTaking tokens (Grammar.skipBlock 0 tokens)

end Cursor

end BindingSync.Binding
