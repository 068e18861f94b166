import BindingSync.Binding.Declaration
import BindingSync.Binding.Rule
import BindingSync.Text.Digits

/-!
# The grammar of binding files

The rules of this file read one construct each:

* a type: `[const] A::B[<T, ...>] [const] [*...] [&...]`;
* a parameter: `type [name]`;
* an address clause: `= win 0x1234, mac 0x5678`;
* a function: `[dispatch] (type name | ~Name) (params) [address clause] [{ ... }]`;
* an attribute block: `[[link(win, android)]]`;
* a class header: `class A::B [: bases] {`.

The depth of a template clause bounds how deep further clauses nest in it; at depth zero a
type has no clause.
-/

namespace BindingSync.Binding

open BindingSync.Text

/-- Template arguments of a declared type nest this deep. -/
def templateDepth : Nat := 2

namespace Grammar

/-- Takes a token of a kind off the front, if it is there. -/
def optional (kind : TokenKind) : List Token → Bool × List Token
  | [] => (false, [])
  | token :: rest => if token.kind = kind then (true, rest) else (false, token :: rest)

/-- Takes a token of a kind off the front, or does not match. -/
def expect (kind : TokenKind) : List Token → Option (List Token)
  | [] => none
  | token :: rest => if token.kind = kind then some rest else none

/-- Counts the tokens of a kind at the front and takes them off. -/
def countOf (kind : TokenKind) (tokens : List Token) : Nat × List Token :=
  ((tokens.takeWhile (·.kind = kind)).length, tokens.dropWhile (·.kind = kind))

theorem length_optional (kind : TokenKind) (tokens : List Token) :
    (optional kind tokens).2.length ≤ tokens.length := by
  unfold optional
  split
  · simp
  · split <;> simp

theorem length_of_expect {kind : TokenKind} {tokens rest : List Token}
    (h : expect kind tokens = some rest) : rest.length < tokens.length := by
  unfold expect at h
  split at h
  · simp at h
  · split at h
    · cases h; simp
    · simp at h

/-! ### Names and types -/

/-- The names behind a first one, each behind a `::`. -/
def scopedNames : List Token → List String × List Token
  | mark :: name :: rest =>
    if mark.kind = .scope ∧ name.kind = .identifier then
      let (names, last) := scopedNames rest
      (name.text :: names, last)
    else ([], mark :: name :: rest)
  | rest => ([], rest)

theorem length_scopedNames (tokens : List Token) :
    (scopedNames tokens).2.length ≤ tokens.length := by
  fun_induction scopedNames tokens with
  | case1 mark name rest h names last he ih =>
    simp only [List.length_cons]
    rw [he] at ih
    simp only at ih
    omega
  | case2 => simp
  | case3 => simp

/-- The qualified name at the front. -/
def frontName : List Token → Option (QualifiedName × List Token)
  | [] => none
  | token :: rest =>
    if token.kind = .identifier then
      let (names, last) := scopedNames rest
      some (.ofSegments token.text names, last)
    else none

theorem length_of_frontName {tokens rest : List Token} {name : QualifiedName}
    (h : frontName tokens = some (name, rest)) : rest.length < tokens.length := by
  unfold frontName at h
  split at h
  · simp at h
  · next token tail =>
    split at h
    · cases h
      have := length_scopedNames tail
      simp only [List.length_cons]
      omega
    · simp at h

/-- A qualified name. -/
def qualifiedName : Rule QualifiedName where
  parse := frontName
  shorter := length_of_frontName

/-- A template clause: types between angle brackets. -/
def templateClause (type : Rule TypeExpr) : Rule (List TypeExpr) where
  parse tokens := do
    let rest ← expect .openAngle tokens
    let (arg, rest) ← type.parse rest
    let (args, rest) ← type.afterCommas rest
    let rest ← expect .closeAngle rest
    return (arg :: args, rest)
  shorter := by
    intro tokens value rest h
    simp only [Option.bind_eq_bind, Option.bind_eq_some_iff, Option.pure_def, Option.some.injEq,
      Prod.exists, Prod.mk.injEq] at h
    obtain ⟨r₁, h₁, arg, r₂, h₂, args, r₃, h₃, r₄, h₄, -, rfl⟩ := h
    have := length_of_expect h₁
    have := type.shorter h₂
    have := Rule.length_of_afterCommas h₃
    have := length_of_expect h₄
    omega

/-- The template arguments behind a name.  Without a rule for them no clause may follow. -/
def templateArgs (clause? : Option (Rule (List TypeExpr))) (tokens : List Token) :
    Option (List TypeExpr × List Token) :=
  if (tokens.head?.map Token.kind) = some .openAngle then
    clause?.bind fun clause => clause.parse tokens
  else some ([], tokens)

theorem length_of_templateArgs {clause? : Option (Rule (List TypeExpr))}
    {tokens rest : List Token} {args : List TypeExpr}
    (h : templateArgs clause? tokens = some (args, rest)) : rest.length ≤ tokens.length := by
  unfold templateArgs at h
  split at h
  · obtain ⟨clause, -, hc⟩ := Option.bind_eq_some_iff.1 h
    exact Nat.le_of_lt (clause.shorter hc)
  · cases h; simp

/-- The marks behind a name and its arguments: `const`, then stars, then ampersands. -/
def typeMarks (leadingConst : Bool) (name : QualifiedName) (args : List TypeExpr)
    (tokens : List Token) : TypeExpr × List Token :=
  let (trailingConst, rest) := optional .constWord tokens
  let (pointers, rest) := countOf .star rest
  let (references, rest) := countOf .ampersand rest
  (.mk name args (leadingConst || trailingConst) pointers references, rest)

theorem length_typeMarks (leadingConst : Bool) (name : QualifiedName) (args : List TypeExpr)
    (tokens : List Token) :
    (typeMarks leadingConst name args tokens).2.length ≤ tokens.length := by
  have h₁ := length_optional .constWord tokens
  have h₂ := (List.dropWhile_sublist (·.kind = .star)
    (l := (optional .constWord tokens).2)).length_le
  have h₃ := (List.dropWhile_sublist (·.kind = .ampersand)
    (l := (optional .constWord tokens).2.dropWhile (·.kind = .star))).length_le
  simp only [typeMarks, countOf]
  omega

/-- A type whose name may be followed by a clause of the given rule. -/
def typeWith (clause? : Option (Rule (List TypeExpr))) : Rule TypeExpr where
  parse tokens := do
    let (leadingConst, rest) := optional .constWord tokens
    let (name, rest) ← qualifiedName.parse rest
    let (args, rest) ← templateArgs clause? rest
    return typeMarks leadingConst name args rest
  shorter := by
    intro tokens value rest h
    simp only [Option.bind_eq_bind, Option.bind_eq_some_iff, Option.pure_def, Option.some.injEq,
      Prod.exists] at h
    obtain ⟨name, r₁, h₁, args, r₂, h₂, h₃⟩ := h
    have := length_optional .constWord tokens
    have := qualifiedName.shorter h₁
    have := length_of_templateArgs h₂
    have h₄ := length_typeMarks (optional .constWord tokens).1 name args r₂
    rw [h₃] at h₄
    simp only at h₄
    omega

/-- A type whose template clauses nest at most as deep as the bound. -/
def typeExpr : Nat → Rule TypeExpr
  | 0 => typeWith none
  | depth + 1 => typeWith (some (templateClause (typeExpr depth)))

/-- A type whose template clauses nest at most as deep as the bound; below zero there is no
clause either.  Clauses cannot nest deeper than there are tokens. -/
def typeUpTo (depth : Int) : Rule TypeExpr where
  parse tokens := (typeExpr (min depth.toNat tokens.length)).parse tokens
  shorter := fun {tokens _ _} h => (typeExpr (min depth.toNat tokens.length)).shorter h

/-! ### Parameters -/

/-- The name of a parameter, if one follows. -/
def paramName : List Token → Option String × List Token
  | [] => (none, [])
  | token :: rest =>
    if token.kind = .identifier then (some token.text, rest) else (none, token :: rest)

theorem length_paramName (tokens : List Token) :
    (paramName tokens).2.length ≤ tokens.length := by
  unfold paramName
  split
  · simp
  · split <;> simp

/-- A parameter: a type and perhaps a name. -/
def param : Rule ParamDecl where
  parse tokens := do
    let (type, rest) ← (typeExpr templateDepth).parse tokens
    let (name, rest) := paramName rest
    return ({ type, name }, rest)
  shorter := by
    intro tokens value rest h
    simp only [Option.bind_eq_bind, Option.bind_eq_some_iff, Option.pure_def, Option.some.injEq,
      Prod.exists, Prod.mk.injEq] at h
    obtain ⟨type, r₁, h₁, -, rfl⟩ := h
    have := (typeExpr templateDepth).shorter h₁
    have := length_paramName r₁
    omega

/-- The parameters up to the closing parenthesis; a comma may stand in front of it. -/
def paramsUntilClose (tokens : List Token) : Option (List ParamDecl × List Token) :=
  match expect .closeParen tokens with
  | some rest => some ([], rest)
  | none =>
    match _h : param.parse tokens with
    | none => none
    | some (first, rest) =>
      match _hc : expect .comma rest with
      | some rest' =>
        (paramsUntilClose rest').map fun (others, last) => (first :: others, last)
      | none => (expect .closeParen rest).map fun last => ([first], last)
termination_by tokens.length
decreasing_by
  have := param.shorter _h
  have := length_of_expect _hc
  omega

theorem length_of_paramsUntilClose {tokens rest : List Token} {params : List ParamDecl}
    (h : paramsUntilClose tokens = some (params, rest)) : rest.length < tokens.length := by
  fun_induction paramsUntilClose tokens generalizing params with
  | case1 tokens rest' hc => cases h; exact length_of_expect hc
  | case2 => simp at h
  | case3 tokens _ first r hp r' hc ih =>
    obtain ⟨⟨others, last⟩, ho, he⟩ := Option.map_eq_some_iff.1 h
    cases he
    have := param.shorter hp
    have := length_of_expect hc
    have := ih ho
    omega
  | case4 tokens _ first r hp _ =>
    obtain ⟨last, hl, he⟩ := Option.map_eq_some_iff.1 h
    cases he
    have := param.shorter hp
    have := length_of_expect hl
    omega

/-- A parameter list in parentheses. -/
def paramList : Rule (List ParamDecl) where
  parse tokens := (expect .openParen tokens).bind paramsUntilClose
  shorter := by
    intro tokens value rest h
    obtain ⟨r, h₁, h₂⟩ := Option.bind_eq_some_iff.1 h
    have := length_of_expect h₁
    have := length_of_paramsUntilClose h₂
    omega

/-! ### Addresses -/

/-- The offset that a token writes: a number token of the form `0x` and hexadecimal digits. -/
def offset? (token : Token) : Option Int :=
  if token.kind = .number then
    match token.text.toList with
    | '0' :: 'x' :: digits => (hexNumber? digits).map Int.ofNat
    | _ => none
  else none

/-- The pairs of a platform tag and an offset at the front, each perhaps with a comma behind
it. -/
def addressPairs : List Token → AddressClause × List Token
  | tag :: number :: rest =>
    match tag.kind, offset? number with
    | .identifier, some offset =>
      let (pairs, last) := addressPairs (optional .comma rest).2
      ((tag.text, offset) :: pairs, last)
    | _, _ => ([], tag :: number :: rest)
  | rest => ([], rest)
termination_by tokens => tokens.length
decreasing_by
  have := length_optional .comma rest
  simp only [List.length_cons]
  omega

theorem length_addressPairs (tokens : List Token) :
    (addressPairs tokens).2.length ≤ tokens.length := by
  fun_induction addressPairs tokens with
  | case1 tag number rest offset hk ho pairs last he ih =>
    have := length_optional .comma rest
    rw [he] at ih
    simp only [List.length_cons] at ih ⊢
    omega
  | case2 => simp
  | case3 => simp

/-- Keeps the first of the entries for each tag. -/
def keepFirst : AddressClause → AddressClause
  | [] => []
  | (tag, offset) :: rest => (tag, offset) :: (keepFirst rest).filter (·.1 != tag)

/-- An address clause.  The first offset of a tag counts, and a sentinel is no offset. -/
def addressClause : Rule AddressClause where
  parse tokens := do
    let rest ← expect .equals tokens
    match addressPairs rest with
    | ([], _) => none
    | (pairs, last) => return ((keepFirst pairs).filter (·.2 != sentinelOffset), last)
  shorter := by
    intro tokens value rest h
    obtain ⟨r, h₁, h₂⟩ := Option.bind_eq_some_iff.1 h
    have := length_of_expect h₁
    have h₃ := length_addressPairs r
    split at h₂
    · simp at h₂
    · next he =>
      cases h₂
      rw [he] at h₃
      simp only at h₃
      omega

/-! ### Functions -/

/-- Passes over a block in braces, when as many of its braces are open as the depth says, or
over everything up to the end of the text if the block is not closed. -/
def skipBlock (depth : Nat) : List Token → List Token
  | [] => []
  | token :: rest =>
    if token.kind = .eof then token :: rest
    else if token.kind = .openBrace then skipBlock (depth + 1) rest
    else if token.kind = .closeBrace then
      if depth ≤ 1 then rest else skipBlock (depth - 1) rest
    else skipBlock depth rest

theorem length_skipBlock (depth : Nat) (tokens : List Token) :
    (skipBlock depth tokens).length ≤ tokens.length := by
  fun_induction skipBlock depth tokens <;> simp_all <;> omega

/-- The inline body of a function, if there is one, is passed over. -/
def skipBody (tokens : List Token) : List Token :=
  if (tokens.head?.map Token.kind) = some .openBrace then skipBlock 0 tokens else tokens

theorem length_skipBody (tokens : List Token) : (skipBody tokens).length ≤ tokens.length := by
  unfold skipBody
  split
  · exact length_skipBlock 0 tokens
  · exact Nat.le_refl _

/-- The dispatch that a keyword asks for. -/
def dispatchOf? : TokenKind → Option Dispatch
  | .inlineWord => some .inlined
  | .virtualWord => some .virtual
  | .staticWord => some .static
  | .callbackWord => some .callback
  | _ => none

/-- The dispatch keyword at the front, if there is one. -/
def dispatch : List Token → Dispatch × List Token
  | [] => (.none, [])
  | token :: rest =>
    match dispatchOf? token.kind with
    | some dispatch => (dispatch, rest)
    | none => (.none, token :: rest)

theorem length_dispatch (tokens : List Token) : (dispatch tokens).2.length ≤ tokens.length := by
  unfold dispatch
  split
  · simp
  · split <;> simp

/-- What a function is called and what it returns. -/
structure Heading where
  name : String
  returnType : Option TypeExpr
deriving Repr

/-- The heading of a function: `~Name`, or a return type and a name. -/
def heading (tokens : List Token) : Option (Heading × List Token) :=
  match tokens with
  | tilde :: name :: rest =>
    if tilde.kind = .tilde ∧ name.kind = .identifier then
      some ({ name := "~" ++ name.text, returnType := none }, rest)
    else typed (tilde :: name :: rest)
  | tokens => typed tokens
where
  /-- A return type and a name. -/
  typed (tokens : List Token) : Option (Heading × List Token) := do
    let (type, rest) ← (typeExpr templateDepth).parse tokens
    let (some name, rest) := paramName rest | none
    return ({ name, returnType := some type }, rest)

theorem length_of_heading {tokens rest : List Token} {value : Heading}
    (h : heading tokens = some (value, rest)) : rest.length < tokens.length := by
  have typed : ∀ {ts}, heading.typed ts = some (value, rest) → rest.length < ts.length := by
    intro ts ht
    simp only [heading.typed, Option.bind_eq_bind, Option.bind_eq_some_iff, Prod.exists] at ht
    obtain ⟨type, r, h₁, h₂⟩ := ht
    have := (typeExpr templateDepth).shorter h₁
    have h₃ := length_paramName r
    split at h₂
    · next he =>
      cases h₂
      rw [he] at h₃
      simp only at h₃
      omega
    · simp at h₂
  unfold heading at h
  split at h
  · split at h
    · cases h; simp only [List.length_cons]; omega
    · exact typed h
  · exact typed h

/-- The address clause at the front, if there is one. -/
def addresses (tokens : List Token) : AddressClause × List Token :=
  (addressClause.parse tokens).getD ([], tokens)

theorem length_addresses (tokens : List Token) :
    (addresses tokens).2.length ≤ tokens.length := by
  unfold addresses
  cases h : addressClause.parse tokens with
  | none => simp
  | some r => exact Nat.le_of_lt (addressClause.shorter h)

/-- A function entry of a class body, with its inline body. -/
def function : Rule FunctionDecl where
  parse tokens := do
    let (dispatch, rest) := dispatch tokens
    let (heading, rest) ← heading rest
    let (params, rest) ← paramList.parse rest
    let (addresses, rest) := addresses rest
    let isDestructor := heading.returnType.isNone
    return ({ heading with isDestructor, dispatch, params, addresses }, skipBody rest)
  shorter := by
    intro tokens value rest h
    simp only [Option.bind_eq_bind, Option.bind_eq_some_iff, Option.pure_def, Option.some.injEq,
      Prod.exists, Prod.mk.injEq] at h
    obtain ⟨head, r₁, h₁, params, r₂, h₂, -, rfl⟩ := h
    have := length_dispatch tokens
    have := length_of_heading h₁
    have := paramList.shorter h₂
    have := length_addresses r₂
    have := length_skipBody (addresses r₂).2
    omega

/-! ### Classes -/

/-- The platforms that the rest of an attribute block links, after those already read.  The
flag says whether the parenthesis of a `link` is open. -/
def linkedIn (inLink : Bool) (platforms : List String) : List Token →
    Option (List String × List Token)
  | [] => none
  | token :: rest =>
    if inLink then
      if token.kind = .closeParen then linkedIn false platforms rest
      else if token.kind = .identifier then linkedIn true (platforms ++ [token.text]) rest
      else linkedIn true platforms rest
    else
      match rest with
      | [] => none
      | next :: rest' =>
        if token.kind = .closeBracket ∧ next.kind = .closeBracket then some (platforms, rest')
        else if token.kind = .identifier ∧ token.text = "link" ∧ next.kind = .openParen then
          linkedIn true platforms rest'
        else linkedIn false platforms (next :: rest')
termination_by tokens => tokens.length

theorem length_of_linkedIn {inLink : Bool} {platforms result : List String}
    {tokens rest : List Token} (h : linkedIn inLink platforms tokens = some (result, rest)) :
    rest.length < tokens.length := by
  fun_induction linkedIn inLink platforms tokens <;> simp_all <;> omega

/-- An attribute block in double brackets, and the platforms that it links. -/
def linkAttribute : Rule (List String) where
  parse tokens := do
    let rest ← expect .openBracket tokens
    let rest ← expect .openBracket rest
    linkedIn false [] rest
  shorter := by
    intro tokens value rest h
    simp only [Option.bind_eq_bind, Option.bind_eq_some_iff] at h
    obtain ⟨r₁, h₁, r₂, h₂, h₃⟩ := h
    have := length_of_expect h₁
    have := length_of_expect h₂
    have := length_of_linkedIn h₃
    omega

/-- Bases behind a colon are passed over. -/
def skipBases (tokens : List Token) : List Token :=
  match expect .colon tokens with
  | some rest => rest.dropWhile (·.kind != .openBrace)
  | none => tokens

theorem length_skipBases (tokens : List Token) :
    (skipBases tokens).length ≤ tokens.length := by
  unfold skipBases
  split
  · next h =>
    have := length_of_expect h
    have := (List.dropWhile_sublist (·.kind != .openBrace) (l := ‹List Token›)).length_le
    omega
  · exact Nat.le_refl _

/-- A class header up to the opening brace, and the name of the class. -/
def classHeader : Rule QualifiedName where
  parse tokens := do
    let rest ← expect .classWord tokens
    let (name, rest) ← qualifiedName.parse rest
    let rest ← expect .openBrace (skipBases rest)
    return (name, rest)
  shorter := by
    intro tokens value rest h
    simp only [Option.bind_eq_bind, Option.bind_eq_some_iff, Option.pure_def, Option.some.injEq,
      Prod.exists, Prod.mk.injEq] at h
    obtain ⟨r₁, h₁, name, r₂, h₂, r₃, h₃, -, rfl⟩ := h
    have := length_of_expect h₁
    have := qualifiedName.shorter h₂
    have := length_skipBases r₂
    have := length_of_expect h₃
    omega

end Grammar

end BindingSync.Binding
