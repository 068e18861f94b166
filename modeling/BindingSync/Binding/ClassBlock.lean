import BindingSync.Binding.Grammar
import BindingSync.Binding.Lexer
import BindingSync.Text.Quoted

/-!
# The classes of a binding file

Everything outside class blocks is passed over, and so is everything in a body that is not a
function entry.  A body ends at the first closing brace in column one.  Braces of nested
blocks are expected to be indented, so a malformed inline body cannot swallow the classes
after it.
-/

namespace BindingSync.Binding

open BindingSync.Text

/-- Why a binding file cannot be read. -/
inductive ParseError where
  /-- A comment or a literal is never closed. -/
  | lexical (error : LexError)
  /-- The body of a class never ends; the place is that of its `class` word. -/
  | openBody (name : QualifiedName) (position : Position)
deriving DecidableEq, Repr, Inhabited

namespace ParseError

/-- The place of the error. -/
def position : ParseError → Position
  | lexical error => error.position
  | openBody _ position => position

/-- The wording of the error. -/
def message : ParseError → String
  | lexical error => error.message
  | openBody name position => position.describe
      s!"Class {quoted name.toString} has no closing '\x7d' at the start of a line"

end ParseError

/-- The start of a class block: the platforms linked by an attribute in front of it, its name
and the place of its `class` word. -/
structure BlockStart where
  linked : List String
  name : QualifiedName
  position : Position
deriving DecidableEq, Repr

namespace BlockStart

/-- The class header at the front of the tokens, behind the given attribute. -/
def behind (linked : List String) (tokens : List Token) : Option (BlockStart × List Token) := do
  let token ← tokens.head?
  let (name, rest) ← Grammar.classHeader.parse tokens
  return ({ linked, name, position := token.position }, rest)

theorem length_of_behind {linked : List String} {tokens rest : List Token} {start : BlockStart}
    (h : behind linked tokens = some (start, rest)) : rest.length < tokens.length := by
  simp only [behind, Option.bind_eq_bind, Option.bind_eq_some_iff, Option.pure_def,
    Option.some.injEq, Prod.exists, Prod.mk.injEq] at h
  obtain ⟨-, -, name, r, hc, -, rfl⟩ := h
  exact Grammar.classHeader.shorter hc

end BlockStart

namespace Grammar

/-- The start of a class block, with or without an attribute. -/
def blockStart : Rule BlockStart where
  parse tokens :=
    match linkAttribute.parse tokens with
    | some (linked, rest) => BlockStart.behind linked rest
    | none => BlockStart.behind [] tokens
  shorter := by
    intro tokens value rest h
    split at h
    · next ha =>
      have := linkAttribute.shorter ha
      have := BlockStart.length_of_behind h
      omega
    · exact BlockStart.length_of_behind h

/-- The tokens of a body up to the first closing brace in column one, and those after it. -/
def body : List Token → Option (List Token × List Token)
  | [] => none
  | token :: rest =>
    if token.kind = .closeBrace ∧ token.position.column = 1 then some ([], rest)
    else (body rest).map fun (inside, last) => (token :: inside, last)

theorem length_of_body {tokens inside rest : List Token}
    (h : body tokens = some (inside, rest)) : rest.length < tokens.length := by
  fun_induction body tokens generalizing inside with
  | case1 => simp at h
  | case2 => cases h; simp
  | case3 token tail _ ih =>
    obtain ⟨⟨i, l⟩, hb, he⟩ := Option.map_eq_some_iff.1 h
    cases he
    have := ih hb
    simp only [List.length_cons]
    omega

end Grammar

/-- The class with the given start, whose body has the given tokens. -/
def ClassDecl.ofBody (start : BlockStart) (inside : List Token) : ClassDecl where
  name := start.name
  linked := start.linked
  functions := Grammar.function.scan [] inside

/-- The classes in the tokens, after those already found, of which the last one comes first.
An attribute block that no class header follows is passed over as a whole. -/
def classesIn (found : List ClassDecl) : List Token → Except ParseError (List ClassDecl)
  | [] => .ok found.reverse
  | token :: rest =>
    match _hs : Grammar.blockStart.parse (token :: rest) with
    | some (start, rest') =>
      match _hb : Grammar.body rest' with
      | some (inside, last) => classesIn (.ofBody start inside :: found) last
      | none => .error (.openBody start.name start.position)
    | none =>
      match _ha : Grammar.linkAttribute.parse (token :: rest) with
      | some (_, rest') => classesIn found rest'
      | none => classesIn found rest
termination_by tokens => tokens.length
decreasing_by
  · have := Grammar.blockStart.shorter _hs
    have := Grammar.length_of_body _hb
    omega
  · exact Grammar.linkAttribute.shorter _ha
  · simp

/-- The classes that a binding file declares, in source order. -/
def parse (source : String) : Except ParseError (List ClassDecl) :=
  match tokenize source with
  | .error error => .error (.lexical error)
  | .ok tokens => classesIn [] tokens.dropLast

end BindingSync.Binding
