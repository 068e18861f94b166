import Mathlib.Tactic.Common
import BindingSync.Binding.ClassBlock

/-!
# Loops of the lexer and the grammar

The loops of the lexer end because a piece takes at least one character, and those of the grammar
because a rule that matches takes at least one token; their definitions say so at every match.  Here
each of them is given by what one turn of it does, without the reasons for its end, so that a fact
about a piece or a rule can be rewritten with.
-/

namespace BindingSync.Binding

/-- What is never closed ends the text. -/
lemma lexFrom_of_error {read : List Token} {position : Position} {c : Char} {text : List Char}
    {fault : LexFault} (h : Piece.first c text = .error fault) :
    lexFrom read position (c :: text) = .error ⟨fault, position⟩ := by
  rw [lexFrom]
  split <;> simp_all

/-- A piece is taken off the text. -/
lemma lexFrom_of_ok {c : Char} {text : List Char} {piece : Piece}
    (h : Piece.first c text = .ok piece) (read : List Token) (position : Position) :
    lexFrom read position (c :: text) =
      lexFrom ((piece.token? position).toList ++ read) (position.afterAll piece.text)
        piece.rest := by
  rw [lexFrom]
  split <;> simp_all

namespace Rule

variable {α : Type} {rule : Rule α}

/-- A comma is followed by one more item. -/
lemma afterCommas_of_comma {token : Token} (h : token.kind = .comma)
    (rest : List Token) :
    rule.afterCommas (token :: rest) = (rule.parse rest).bind fun first =>
      (rule.afterCommas first.2).map fun others => (first.1 :: others.1, others.2) := by
  rw [afterCommas, if_pos h]
  split <;> simp [*]

/-- At each token the rule matches, or the token is passed over. -/
lemma scan_cons (found : List α) (token : Token) (rest : List Token) :
    rule.scan found (token :: rest) =
      match rule.parse (token :: rest) with
      | some (value, rest') => rule.scan (value :: found) rest'
      | none => rule.scan found rest := by
  rw [scan]
  split <;> simp [*]

end Rule

namespace Grammar

/-- The parameters up to the closing parenthesis, one at a time. -/
lemma paramsUntilClose_eq (tokens : List Token) :
    paramsUntilClose tokens =
      match expect .closeParen tokens with
      | some rest => some ([], rest)
      | none => (param.parse tokens).bind fun first =>
        match expect .comma first.2 with
        | some rest => (paramsUntilClose rest).map fun others => (first.1 :: others.1, others.2)
        | none => (expect .closeParen first.2).map fun last => ([first.1], last) := by
  rw [paramsUntilClose]
  cases expect .closeParen tokens with
  | some rest => rfl
  | none =>
    simp only
    split
    · simp [*]
    · split <;> simp [*]

/-- Inside a link only a parenthesis ends it. -/
lemma linkedIn_inside (platforms : List String) (token : Token) (rest : List Token) :
    linkedIn true platforms (token :: rest) =
      if token.kind = .closeParen then linkedIn false platforms rest
      else if token.kind = .identifier then linkedIn true (platforms ++ [token.text]) rest
      else linkedIn true platforms rest := by
  rw [linkedIn.eq_def]
  rfl

end Grammar

/-- At each token a class block starts, or an attribute block or the token is passed over. -/
lemma classesIn_cons (found : List ClassDecl) (token : Token) (rest : List Token) :
    classesIn found (token :: rest) =
      match Grammar.blockStart.parse (token :: rest) with
      | some (start, rest') =>
        match Grammar.body rest' with
        | some (inside, last) => classesIn (.ofBody start inside :: found) last
        | none => .error (.openBody start.name start.position)
      | none =>
        match Grammar.linkAttribute.parse (token :: rest) with
        | some (_, rest') => classesIn found rest'
        | none => classesIn found rest := by
  rw [classesIn]
  split
  · simp only [*]
    split <;> simp only [*]
  · simp only [*]
    split <;> simp only [*]

end BindingSync.Binding
