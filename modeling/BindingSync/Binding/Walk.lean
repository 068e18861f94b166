import BindingSync.Binding.Cursor

/-!
# Rules as walks of a cursor

A walk moves a cursor one token at a time: it looks at the token under it or at the one ahead, takes
a token, remembers a place and goes back there.  Here the rules of the grammar are walks.  A rule
goes back to the place it started from wherever it finds that it does not match.  Its parts, such as
a template clause or a list of parameters, stop where they are; it is for the rule to go back.
-/

namespace BindingSync.Binding

/-- A walk of a cursor.  It gives nothing if it looks for a token where there is none, or does not
get on. -/
abbrev Walk := StateT Cursor Option

namespace Walk

open Grammar (Heading)

variable {α β σ : Type}

/-! ### Moves -/

/-- The token under the cursor. -/
def current : Walk Token :=
  fun cursor => cursor.current?.map (·, cursor)

/-- The token under the cursor is of one of the kinds. -/
def check (kinds : List TokenKind) : Walk Bool :=
  fun cursor => (cursor.check? kinds).map (·, cursor)

/-- The token ahead of the one under the cursor. -/
def peek : Walk Token :=
  fun cursor => (cursor.peek? 1).map (·, cursor)

/-- The token under the cursor is the end of the text. -/
def atEnd : Walk Bool :=
  fun cursor => cursor.atEnd?.map (·, cursor)

/-- Takes the token under the cursor. -/
def advance : Walk Token :=
  Cursor.advance?

/-- Takes the token under the cursor if it is of a kind. -/
def accept (kind : TokenKind) : Walk (Option Token) :=
  (Cursor.matchKinds? · [kind])

/-- The place of the cursor. -/
def mark : Walk Int :=
  fun cursor => some (cursor.position, cursor)

/-- Goes back to a place, without a result. -/
def backTo (place : Int) : Walk (Option α) :=
  fun cursor => some (none, cursor.reset place)

/-- A token of one kind is under the cursor, and one of another kind ahead of it. -/
def checkPair (kind next : TokenKind) : Walk Bool := do
  if ← check [kind] then return (← peek).kind = next else return false

/-- Takes two tokens: the second one. -/
def advancePair : Walk Token := do
  let _ ← advance
  advance

/-- Takes turns until one of them gives a result.  Every turn before it takes tokens; one that does
not would be taken again and again. -/
def loop (turn : σ → Walk (σ ⊕ β)) (state : σ) (cursor : Cursor) : Option (β × Cursor) :=
  match turn state cursor with
  | none => none
  | some (.inr result, after) => some (result, after)
  | some (.inl next, after) =>
    if after.ahead < cursor.ahead then loop turn next after else none
termination_by cursor.ahead

/-! ### Types -/

/-- One more segment of a name, behind a `::`. -/
def scopedName (names : List String) : Walk (List String ⊕ List String) := do
  if ← checkPair .scope .identifier then
    let name ← advancePair
    return .inl (names ++ [name.text])
  else return .inr names

/-- A qualified name. -/
def qualifiedName : Walk (Option QualifiedName) := do
  match ← accept .identifier with
  | none => return none
  | some first => return some (.ofSegments first.text (← loop scopedName []))

/-- One more token of a kind that is counted. -/
def counted (kind : TokenKind) (count : Nat) : Walk (Nat ⊕ Nat) := do
  match ← accept kind with
  | some _ => return .inl (count + 1)
  | none => return .inr count

/-- Takes the tokens of a kind: their number. -/
def countOf (kind : TokenKind) : Walk Nat :=
  loop (counted kind) 0

/-- One more item of a list, and the comma behind it: the last item has none. -/
def listed (item : Walk (Option α)) (items : List α) : Walk (List α ⊕ Option (List α)) := do
  match ← item with
  | none => return .inr none
  | some found =>
    match ← accept .comma with
    | some _ => return .inl (items ++ [found])
    | none => return .inr (some (items ++ [found]))

/-- A template clause. -/
def templateClause (type : Walk (Option TypeExpr)) : Walk (Option (List TypeExpr)) := do
  let _ ← advance
  match ← loop (listed type) [] with
  | none => return none
  | some args =>
    match ← accept .closeAngle with
    | some _ => return some args
    | none => return none

/-- The template arguments behind a name, if there is a clause. -/
def templateArgs (clause : Walk (Option (List TypeExpr))) : Walk (Option (List TypeExpr)) := do
  if ← check [.openAngle] then clause else return some []

/-- A type whose name may be followed by the given clause. -/
def typeWith (clause : Walk (Option (List TypeExpr))) : Walk (Option TypeExpr) := do
  let start ← mark
  let leadingConst ← accept .constWord
  match ← qualifiedName with
  | none => backTo start
  | some name =>
    match ← templateArgs clause with
    | none => backTo start
    | some args =>
      let trailingConst ← accept .constWord
      let pointers ← countOf .star
      let references ← countOf .ampersand
      return some (.mk name args (leadingConst.isSome || trailingConst.isSome) pointers references)

/-- A type whose template clauses nest at most as deep as the bound. -/
def typeExpr : Nat → Walk (Option TypeExpr)
  | 0 => typeWith (return none)
  | depth + 1 => typeWith (templateClause (typeExpr depth))

/-! ### Functions -/

/-- A parameter. -/
def param : Walk (Option ParamDecl) := do
  match ← typeExpr templateDepth with
  | none => return none
  | some type =>
    let name ← accept .identifier
    return some { type, name := name.map Token.text }

/-- One more parameter, unless the parenthesis closes. -/
def nextParam (params : List ParamDecl) : Walk (List ParamDecl ⊕ Option (List ParamDecl)) := do
  if ← check [.closeParen] then return .inr (some params) else listed param params

/-- The parenthesis behind the parameters, if these were found. -/
def closeParams : Option (List ParamDecl) → Walk (Option (List ParamDecl))
  | none => return none
  | some params => do
    match ← accept .closeParen with
    | some _ => return some params
    | none => return none

/-- A parameter list in parentheses. -/
def paramList : Walk (Option (List ParamDecl)) := do
  match ← accept .openParen with
  | none => return none
  | some _ => closeParams (← loop nextParam [])

/-- One more pair of a platform tag and an offset. -/
def addressPair (pairs : AddressClause) : Walk (AddressClause ⊕ AddressClause) := do
  if ← check [.identifier] then
    match Grammar.offset? (← peek) with
    | none => return .inr pairs
    | some offset =>
      let tag ← advance
      let _ ← advance
      let _ ← accept .comma
      return .inl (pairs ++ [(tag.text, offset)])
  else return .inr pairs

/-- An address clause. -/
def addressClause : Walk (Option AddressClause) := do
  let start ← mark
  match ← accept .equals with
  | none => return none
  | some _ =>
    match ← loop addressPair [] with
    | [] => backTo start
    | pairs => return some ((Grammar.keepFirst pairs).filter (·.2 != sentinelOffset))

/-- One more token of a block in braces, as many of which are open as the depth says. -/
def blockToken (depth : Nat) : Walk (Nat ⊕ Unit) := do
  if ← atEnd then return .inr ()
  else
    let token ← advance
    if token.kind = .openBrace then return .inl (depth + 1)
    else if token.kind = .closeBrace then
      return if depth ≤ 1 then .inr () else .inl (depth - 1)
    else return .inl depth

/-- Passes over a block in braces. -/
def skipBlock : Walk Unit :=
  loop blockToken 0

/-- The dispatch keyword, if there is one. -/
def dispatch : Walk Dispatch := do
  match Grammar.dispatchOf? (← current).kind with
  | none => return .none
  | some dispatch =>
    let _ ← advance
    return dispatch

/-- The heading of a function. -/
def heading : Walk (Option Heading) := do
  if ← checkPair .tilde .identifier then
    let name ← advancePair
    return some { name := "~" ++ name.text, returnType := none }
  else
    match ← typeExpr templateDepth with
    | none => return none
    | some type =>
      let name ← accept .identifier
      return name.map fun name => { name := name.text, returnType := some type }

/-- Passes over the inline body of a function, if there is one. -/
def skipBody : Walk Unit := do
  if ← check [.openBrace] then skipBlock else return ()

/-- A function entry of a class body, with its inline body. -/
def function : Walk (Option FunctionDecl) := do
  let start ← mark
  let dispatch ← dispatch
  match ← heading with
  | none => backTo start
  | some heading =>
    match ← paramList with
    | none => backTo start
    | some params =>
      let addresses := (← addressClause).getD []
      let isDestructor := heading.returnType.isNone
      skipBody
      return some { heading with isDestructor, dispatch, params, addresses }

/-! ### Classes -/

/-- One more token of the platforms that are linked. -/
def linkedTag (platforms : List String) : Walk (List String ⊕ List String) := do
  if ← check [.closeParen, .eof] then return .inr platforms
  else
    let token ← advance
    return .inl (if token.kind = .identifier then platforms ++ [token.text] else platforms)

/-- The platforms that are linked, up to the closing parenthesis. -/
def linkedTags (platforms : List String) : Walk (List String) := do
  let linked ← loop linkedTag platforms
  let _ ← accept .closeParen
  return linked

/-- One more part of an attribute block: a token, or a `link` with its platforms. -/
def attributePart (platforms : List String) : Walk (List String ⊕ Option (List String)) := do
  if ← atEnd then return .inr none
  else if ← checkPair .closeBracket .closeBracket then
    let _ ← advancePair
    return .inr (some platforms)
  else
    let token ← advance
    if token.kind = .identifier ∧ token.text = "link" then
      match ← accept .openParen with
      | some _ => return .inl (← linkedTags platforms)
      | none => return .inl platforms
    else return .inl platforms

/-- An attribute block in double brackets, and the platforms that it links. -/
def linkAttribute : Walk (Option (List String)) := do
  if ← checkPair .openBracket .openBracket then
    let start ← mark
    let _ ← advancePair
    match ← loop attributePart [] with
    | some platforms => return some platforms
    | none => backTo start
  else return none

/-- One more token of the bases of a class. -/
def baseToken (_ : Unit) : Walk (Unit ⊕ Unit) := do
  if ← check [.openBrace, .eof] then return .inr ()
  else
    let _ ← advance
    return .inl ()

/-- Passes over the bases of a class, if there are any. -/
def skipBases : Walk Unit := do
  match ← accept .colon with
  | some _ => loop baseToken ()
  | none => return ()

/-- A class header up to the opening brace, and the name of the class. -/
def classHeader : Walk (Option QualifiedName) := do
  let start ← mark
  match ← accept .classWord with
  | none => return none
  | some _ =>
    match ← qualifiedName with
    | none => backTo start
    | some name =>
      skipBases
      match ← accept .openBrace with
      | some _ => return some name
      | none => backTo start

end Walk

/-! ### The rules side by side -/

/-- A construct that has a rule. -/
inductive Construct where
  | type (depth : Nat)
  | param | addressClause | function | linkAttribute | classHeader
deriving DecidableEq, Repr

namespace Construct

/-- What a construct means. -/
abbrev Meaning : Construct → Type
  | type _ => TypeExpr
  | param => ParamDecl
  | addressClause => AddressClause
  | function => FunctionDecl
  | linkAttribute => List String
  | classHeader => QualifiedName

/-- The rule of a construct. -/
def rule : (construct : Construct) → Rule construct.Meaning
  | type depth => Grammar.typeUpTo depth
  | param => Grammar.param
  | addressClause => Grammar.addressClause
  | function => Grammar.function
  | linkAttribute => Grammar.linkAttribute
  | classHeader => Grammar.classHeader

/-- The walk that looks for a construct. -/
def walk : (construct : Construct) → Walk (Option construct.Meaning)
  | type depth => Walk.typeExpr depth
  | param => Walk.param
  | addressClause => Walk.addressClause
  | function => Walk.function
  | linkAttribute => Walk.linkAttribute
  | classHeader => Walk.classHeader

end Construct

end BindingSync.Binding
