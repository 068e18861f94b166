import BindingSync.Proofs.Binding.Functions
import BindingSync.Proofs.Binding.TypeGrammar

/-!
# The grammar of functions

A function is written as `[dispatch] (type name | ~Name) (params)`, where a comma may stand behind
the last parameter (`IsSignature`).  An address clause and an inline body may follow.  Neither can
make a function fail: a clause that is none is left where it is (`IsAddressPart`), and a body goes
up to the brace that matches its first one, or to the end of the text (`IsBody`).

The rule for functions accepts exactly these signatures (`readSignature_eq_some_iff`), and behind a
signature there is always one way to go on (`exists_isAddressPart`, `exists_isBody`).
-/

namespace BindingSync.Binding

open BindingSync.Text

namespace Grammar

/-! ### Sentences -/

/-- A type and perhaps a name. -/
inductive IsParam : List Token → ParamDecl → Prop
  | unnamed {tokens : List Token} {type : TypeExpr} (h : IsType templateDepth tokens type) :
      IsParam tokens { type }
  | named {tokens : List Token} {type : TypeExpr} {name : Token}
      (h : IsType templateDepth tokens type) (hname : name.kind = .identifier) :
      IsParam (tokens ++ [name]) { type, name := some name.text }

/-- Parameters with commas between them, and perhaps one behind the last; or none. -/
inductive IsParams : List Token → List ParamDecl → Prop
  | none : IsParams [] []
  | listed {tokens comma : List Token} {params : List ParamDecl} {isTrailing : Bool}
      (h : IsListed IsParam tokens params) (hcomma : IsOptional .comma comma isTrailing) :
      IsParams (tokens ++ comma) params

/-- A keyword for a dispatch, or none. -/
inductive IsDispatch : List Token → Dispatch → Prop
  | absent : IsDispatch [] .none
  | word {token : Token} {dispatch : Dispatch} (h : dispatchOf? token.kind = some dispatch) :
      IsDispatch [token] dispatch

/-- The name of a destructor behind its tilde, or a return type and a name. -/
inductive IsHeading : List Token → Heading → Prop
  | destructor {tilde name : Token} (htilde : tilde.kind = .tilde)
      (hname : name.kind = .identifier) :
      IsHeading [tilde, name] { name := "~" ++ name.text, returnType := none }
  | typed {tokens : List Token} {type : TypeExpr} {name : Token}
      (h : IsType templateDepth tokens type) (hname : name.kind = .identifier) :
      IsHeading (tokens ++ [name]) { name := name.text, returnType := some type }

/-- A function up to its closing parenthesis.  There are no addresses in it; it is a destructor if
it returns nothing. -/
inductive IsSignature : List Token → FunctionDecl → Prop
  | intro {word tokens inner : List Token} {left right : Token} {dispatch : Dispatch}
      {heading : Heading} {params : List ParamDecl} (hdispatch : IsDispatch word dispatch)
      (hheading : IsHeading tokens heading) (hleft : left.kind = .openParen)
      (hparams : IsParams inner params) (hright : right.kind = .closeParen) :
      IsSignature (word ++ tokens ++ left :: inner ++ [right])
        { heading with isDestructor := heading.returnType.isNone, dispatch, params }

/-- A number token of the form `0x` and hexadecimal digits. -/
structure IsOffset (token : Token) (offset : Int) : Prop where
  kind_eq : token.kind = .number
  text_eq : ∃ digits n, token.text.toList = '0' :: 'x' :: digits ∧ hexNumber? digits = some n ∧
    offset = n

/-- Tags with their offsets, each perhaps with a comma behind it. -/
inductive IsPairs : List Token → AddressClause → Prop
  | nil : IsPairs [] []
  | cons {tag number : Token} {comma more : List Token} {offset : Int} {pairs : AddressClause}
      {isSeparated : Bool} (htag : tag.kind = .identifier) (hoffset : IsOffset number offset)
      (hcomma : IsOptional .comma comma isSeparated) (hmore : IsPairs more pairs) :
      IsPairs (tag :: number :: (comma ++ more)) ((tag.text, offset) :: pairs)

/-- A tag and an offset come next. -/
def PairFollows : List Token → Prop
  | tag :: number :: _ => tag.kind = .identifier ∧ ∃ offset, IsOffset number offset
  | _ => False

/-- A comma comes next, and none stands behind the last pair yet. -/
def CommaFollows (run rest : List Token) : Prop :=
  (∃ next ∈ rest.head?, next.kind = .comma) ∧ ∀ last ∈ run.getLast?, last.kind ≠ .comma

/-- In front of the rest the tokens are all of an address clause with at least one pair; or there is
none, for what comes next is no equals sign, or no pair is behind it. -/
inductive IsAddressPart : List Token → AddressClause → List Token → Prop
  | present {equals : Token} {run rest : List Token} {pairs : AddressClause}
      (hequals : equals.kind = .equals) (hrun : IsPairs run pairs) (hne : pairs ≠ [])
      (hpair : ¬PairFollows rest) (hcomma : ¬CommaFollows run rest) :
      IsAddressPart (equals :: run) pairs rest
  | absent {rest : List Token}
      (h : ∀ equals ∈ rest.head?, equals.kind = .equals → ¬PairFollows rest.tail) :
      IsAddressPart [] [] rest

/-- The offset of a tag is the first one of its pairs; a sentinel is no offset. -/
structure Collects (pairs addresses : AddressClause) : Prop where
  sublist : addresses.Sublist pairs
  nodup : (addresses.map Prod.fst).Nodup
  lookup_eq : ∀ tag, addresses.lookup tag = (pairs.lookup tag).filter (· != sentinelOffset)

/-- How many tokens of a kind there are. -/
def countKind (kind : TokenKind) (tokens : List Token) : Nat :=
  tokens.countP (·.kind = kind)

/-- In front of the rest the tokens close so many braces, with all that are opened in them: the last
token closes the last brace, and one is open before it.  If the braces are not all closed, the
tokens go up to the end of the text. -/
structure Closes (depth : Nat) (tokens rest : List Token) : Prop where
  inside : ∀ token ∈ tokens, token.kind ≠ .eof
  isOpen : ∀ front, front <+: tokens → front ≠ tokens →
    countKind .closeBrace front < depth + countKind .openBrace front
  ends : countKind .closeBrace tokens = depth + countKind .openBrace tokens ∨
    countKind .closeBrace tokens < depth + countKind .openBrace tokens ∧
      ∀ token ∈ rest.head?, token.kind = .eof

/-- In front of the rest the tokens are a block in braces; or there is none. -/
inductive IsBody : List Token → List Token → Prop
  | block {left : Token} {tokens rest : List Token} (hleft : left.kind = .openBrace)
      (h : Closes 1 tokens rest) : IsBody (left :: tokens) rest
  | absent {rest : List Token} (h : ∀ token ∈ rest.head?, token.kind ≠ .openBrace) : IsBody [] rest

/-! ### Parameters -/

section Params

variable {tokens rest : List Token} {type : TypeExpr}

/-- A type starts with a `const` or an identifier. -/
lemma IsType.exists_head {depth : Nat} (h : IsType depth tokens type) :
    ∃ first more, tokens = first :: more ∧
      (first.kind = .constWord ∨ first.kind = .identifier) := by
  obtain ⟨hleading, ⟨hfirst, -⟩, -, -, -, -⟩ := h.isTypeOver
  cases hleading with
  | absent => exact ⟨_, _, rfl, .inr hfirst⟩
  | present hkind => exact ⟨_, _, rfl, .inl hkind⟩

/-- A comma or a closing parenthesis comes next, if anything does: a parameter ends here. -/
def EndsParam (rest : List Token) : Prop :=
  ∀ token ∈ rest.head?, token.kind = .comma ∨ token.kind = .closeParen

/-- Where a parameter ends, its type does. -/
lemma EndsParam.endsType (h : EndsParam rest) : EndsType rest := by
  intro token htoken
  obtain hkind | hkind := h token htoken
  · simp [hkind]
  · simp [hkind]

/-- What the rule for parameters takes is a parameter. -/
lemma isParam_of_parse {param : ParamDecl} (h : Grammar.param.parse tokens = some (param, rest)) :
    ∃ taken, tokens = taken ++ rest ∧ IsParam taken param := by
  simp only [Grammar.param, Option.bind_eq_bind, Option.bind_eq_some_iff, Option.pure_def,
    Option.some.injEq, Prod.exists, Prod.mk.injEq] at h
  obtain ⟨type, more, hread, rfl, rfl⟩ := h
  obtain ⟨taken, rfl, htype, -⟩ := (recognizes_typeExpr _).1 hread
  rcases more with _ | ⟨name, more⟩
  · exact ⟨taken, rfl, .unnamed htype⟩
  · by_cases hname : name.kind = .identifier
    · simp only [paramName, if_pos hname]
      exact ⟨taken ++ [name], by simp, .named htype hname⟩
    · simp only [paramName, if_neg hname]
      exact ⟨taken, rfl, .unnamed htype⟩

/-- A parameter is taken where it ends. -/
lemma IsParam.parse_eq {param : ParamDecl} (h : IsParam tokens param) (hends : EndsParam rest) :
    Grammar.param.parse (tokens ++ rest) = some (param, rest) := by
  cases h with
  | unnamed htype =>
    have hread := htype.parse_eq hends.endsType
    have hname : paramName rest = (none, rest) := by
      rcases rest with _ | ⟨token, rest⟩
      · rfl
      · have hkind : token.kind ≠ .identifier := by
          obtain hkind | hkind := hends token rfl <;> simp [hkind]
        rw [paramName, if_neg hkind]
    simp only [Grammar.param, hread, hname, Option.bind_eq_bind, Option.bind_some, Option.pure_def]
  | @named tokens type name htype hname =>
    have hends : EndsType (name :: rest) := endsType_of_kind (by simp [hname]) rest
    have hread := htype.parse_eq hends
    rw [List.append_assoc, List.singleton_append]
    simp only [Grammar.param, hread, paramName, if_pos hname, Option.bind_eq_bind,
      Option.bind_some, Option.pure_def]

/-- No parameter starts with a closing parenthesis. -/
lemma IsParam.expect_closeParen {param : ParamDecl} (h : IsParam tokens param)
    (rest : List Token) : expect .closeParen (tokens ++ rest) = none := by
  obtain ⟨first, more, rfl, hkind⟩ : ∃ first more, tokens = first :: more ∧
      (first.kind = .constWord ∨ first.kind = .identifier) := by
    cases h with
    | unnamed htype => exact htype.exists_head
    | named htype =>
      obtain ⟨first, more, rfl, hkind⟩ := htype.exists_head
      exact ⟨first, _, List.cons_append, hkind⟩
  refine expect_of_ne ?_ _
  obtain hkind | hkind := hkind <;> simp [hkind]

/-- What is taken up to a closing parenthesis are parameters. -/
lemma isParams_of_paramsUntilClose {params : List ParamDecl}
    (h : paramsUntilClose tokens = some (params, rest)) :
    ∃ inner right, tokens = inner ++ right :: rest ∧ IsParams inner params ∧
      right.kind = .closeParen := by
  fun_induction paramsUntilClose tokens generalizing params with
  | case1 tokens last hclose =>
    cases h
    obtain ⟨right, rfl, hright⟩ := expect_eq_some_iff.1 hclose
    exact ⟨[], right, rfl, .none, hright⟩
  | case2 => cases h
  | case3 tokens _ first more hfirst more' hcomma ih =>
    obtain ⟨⟨others, last⟩, hothers, heq⟩ := Option.map_eq_some_iff.1 h
    cases heq
    obtain ⟨taken, rfl, hparam⟩ := isParam_of_parse hfirst
    obtain ⟨comma, rfl, hkind⟩ := expect_eq_some_iff.1 hcomma
    obtain ⟨inner, right, rfl, hinner, hright⟩ := ih hothers
    refine ⟨taken ++ comma :: inner, right, by simp, ?_, hright⟩
    cases hinner with
    | none => exact .listed (.last hparam) (.present hkind)
    | listed hlisted htrailing =>
      rw [← List.cons_append, ← List.append_assoc]
      exact .listed (.cons hparam hkind hlisted) htrailing
  | case4 tokens _ first more hfirst _ =>
    obtain ⟨last, hlast, heq⟩ := Option.map_eq_some_iff.1 h
    cases heq
    obtain ⟨taken, rfl, hparam⟩ := isParam_of_parse hfirst
    obtain ⟨right, rfl, hright⟩ := expect_eq_some_iff.1 hlast
    refine ⟨taken, right, rfl, ?_, hright⟩
    simpa using IsParams.listed (.last hparam) .absent

/-- Parameters are taken up to the closing parenthesis behind them. -/
lemma IsListed.paramsUntilClose_eq {params : List ParamDecl} (h : IsListed IsParam tokens params)
    {comma : List Token} {isTrailing : Bool} (hcomma : IsOptional .comma comma isTrailing)
    {right : Token} (hright : right.kind = .closeParen) (rest : List Token) :
    paramsUntilClose (tokens ++ (comma ++ right :: rest)) = some (params, rest) := by
  have hlast : expect .closeParen (right :: rest) = some rest :=
    expect_eq_some_iff.2 ⟨right, rfl, hright⟩
  induction h with
  | @last tokens param hparam =>
    cases hcomma with
    | absent =>
      have hends : EndsParam (right :: rest) := by simp [EndsParam, hright]
      exact paramsUntilClose_of_close (hparam.expect_closeParen _) (hparam.parse_eq hends)
        (expect_of_ne (by simp [hright]) rest) hlast
    | @present comma hcomma =>
      have hends : EndsParam (comma :: right :: rest) := by simp [EndsParam, hcomma]
      have hmore : paramsUntilClose (right :: rest) = some ([], rest) := by
        rw [Grammar.paramsUntilClose_eq, hlast]
      rw [List.singleton_append, paramsUntilClose_of_comma (hparam.expect_closeParen _)
        (hparam.parse_eq hends) (expect_eq_some_iff.2 ⟨comma, rfl, hcomma⟩), hmore]
      rfl
  | @cons tokens more param params mark hparam hmark _ ih =>
    have hends : EndsParam (mark :: (more ++ (comma ++ right :: rest))) := by
      simp [EndsParam, hmark]
    rw [List.append_assoc, List.cons_append,
      paramsUntilClose_of_comma (hparam.expect_closeParen _) (hparam.parse_eq hends)
        (expect_eq_some_iff.2 ⟨mark, rfl, hmark⟩), ih]
    rfl

/-- Parameters in parentheses are read, and nothing else is. -/
lemma paramList_eq_some_iff {params : List ParamDecl} :
    paramList.parse tokens = some (params, rest) ↔
      ∃ left inner right, tokens = left :: (inner ++ right :: rest) ∧ left.kind = .openParen ∧
        IsParams inner params ∧ right.kind = .closeParen := by
  constructor
  · intro h
    obtain ⟨more, hopen, hmore⟩ := Option.bind_eq_some_iff.1 h
    obtain ⟨left, rfl, hleft⟩ := expect_eq_some_iff.1 hopen
    obtain ⟨inner, right, rfl, hinner, hright⟩ := isParams_of_paramsUntilClose hmore
    exact ⟨left, inner, right, rfl, hleft, hinner, hright⟩
  · rintro ⟨left, inner, right, rfl, hleft, hinner, hright⟩
    have hopen : expect .openParen (left :: (inner ++ right :: rest)) =
        some (inner ++ right :: rest) := expect_eq_some_iff.2 ⟨left, rfl, hleft⟩
    have hread : paramList.parse (left :: (inner ++ right :: rest)) =
        paramsUntilClose (inner ++ right :: rest) := by
      simp only [paramList, hopen, Option.bind_some]
    rw [hread]
    cases hinner with
    | none =>
      rw [List.nil_append, Grammar.paramsUntilClose_eq, expect_eq_some_iff.2 ⟨right, rfl, hright⟩]
    | listed hlisted hcomma =>
      rw [List.append_assoc]
      exact hlisted.paramsUntilClose_eq hcomma hright rest

end Params

/-! ### Signatures -/

section Signatures

variable {tokens rest : List Token}

/-- A dispatch keyword is taken exactly if it is there. -/
lemma dispatch_eq_iff {value : Dispatch} : dispatch tokens = (value, rest) ↔
    ∃ taken, tokens = taken ++ rest ∧ IsDispatch taken value ∧
      (taken = [] → ∀ token ∈ rest.head?, dispatchOf? token.kind = none) := by
  constructor
  · intro h
    cases tokens with
    | nil =>
      cases h
      exact ⟨[], rfl, .absent, by simp⟩
    | cons token more =>
      cases hword : dispatchOf? token.kind with
      | none =>
        simp only [dispatch, hword, Prod.mk.injEq] at h
        obtain ⟨rfl, rfl⟩ := h
        exact ⟨[], rfl, .absent, by simpa using hword⟩
      | some found =>
        simp only [dispatch, hword, Prod.mk.injEq] at h
        obtain ⟨rfl, rfl⟩ := h
        exact ⟨[token], rfl, .word hword, by simp⟩
  · rintro ⟨taken, rfl, htaken, hstop⟩
    cases htaken with
    | absent => exact dispatch_of_head (hstop rfl)
    | word hword => simp [dispatch, hword]

/-- A heading starts with a tilde, a `const` or an identifier. -/
lemma IsHeading.exists_head {value : Heading} (h : IsHeading tokens value) :
    ∃ first more, tokens = first :: more ∧
      (first.kind = .tilde ∨ first.kind = .constWord ∨ first.kind = .identifier) := by
  cases h with
  | destructor htilde => exact ⟨_, _, rfl, .inl htilde⟩
  | typed htype =>
    obtain ⟨first, more, rfl, hkind⟩ := htype.exists_head
    exact ⟨first, _, List.cons_append, .inr hkind⟩

/-- A return type and a name are taken exactly if they are there. -/
lemma typed_eq_some_iff {value : Heading} : heading.typed tokens = some (value, rest) ↔
    ∃ taken type name, tokens = taken ++ name :: rest ∧ IsType templateDepth taken type ∧
      name.kind = .identifier ∧ value = { name := name.text, returnType := some type } := by
  constructor
  · intro h
    simp only [heading.typed, Option.bind_eq_bind, Option.bind_eq_some_iff, Prod.exists] at h
    obtain ⟨type, more, hread, hnamed⟩ := h
    obtain ⟨taken, rfl, htype, -⟩ := (recognizes_typeExpr _).1 hread
    rcases more with _ | ⟨name, more⟩
    · cases hnamed
    · by_cases hname : name.kind = .identifier
      · simp only [paramName, if_pos hname, Option.pure_def, Option.some.injEq,
          Prod.mk.injEq] at hnamed
        obtain ⟨rfl, rfl⟩ := hnamed
        exact ⟨taken, type, name, rfl, htype, hname, rfl⟩
      · simp only [paramName, if_neg hname] at hnamed
        cases hnamed
  · rintro ⟨taken, type, name, rfl, htype, hname, rfl⟩
    have hends : EndsType (name :: rest) := endsType_of_kind (by simp [hname]) rest
    have hread := htype.parse_eq hends
    simp only [heading.typed, hread, paramName, if_pos hname, Option.bind_eq_bind,
      Option.bind_some, Option.pure_def]

/-- A heading is taken exactly if it is there. -/
lemma heading_eq_some_iff {value : Heading} : heading tokens = some (value, rest) ↔
    ∃ taken, tokens = taken ++ rest ∧ IsHeading taken value := by
  constructor
  · intro h
    have htyped : heading.typed tokens = some (value, rest) →
        ∃ taken, tokens = taken ++ rest ∧ IsHeading taken value := by
      intro htyped
      obtain ⟨taken, type, name, rfl, htype, hname, rfl⟩ := typed_eq_some_iff.1 htyped
      exact ⟨taken ++ [name], by simp, .typed htype hname⟩
    unfold heading at h
    split at h
    · next tilde name more =>
      split at h
      · next hkinds =>
        cases h
        exact ⟨[tilde, name], rfl, .destructor hkinds.1 hkinds.2⟩
      · exact htyped h
    · exact htyped h
  · rintro ⟨taken, rfl, htaken⟩
    cases htaken with
    | destructor htilde hname => simp [heading, htilde, hname]
    | @typed tokens type name htype hname =>
      obtain ⟨first, more, rfl, hkind⟩ := htype.exists_head
      have hhead : ∀ token ∈ (first :: more ++ [name] ++ rest).head?, token.kind ≠ .tilde := by
        obtain hkind | hkind := hkind <;> simp [hkind]
      rw [heading_of_head hhead]
      exact typed_eq_some_iff.2 ⟨first :: more, type, name, by simp, htype, hname, rfl⟩

/-- What the rule for functions reads first: all up to the closing parenthesis. -/
def readSignature (tokens : List Token) : Option (FunctionDecl × List Token) :=
  let (dispatch, rest) := dispatch tokens
  (heading rest).bind fun (heading, rest) =>
    (paramList.parse rest).map fun (params, rest) =>
      ({ heading with isDestructor := heading.returnType.isNone, dispatch, params }, rest)

/-- Behind a signature the rule for functions takes an address clause and a body, and it does not
fail any more. -/
lemma function_parse (tokens : List Token) :
    function.parse tokens = (readSignature tokens).map fun signature =>
      ({ signature.1 with addresses := (addresses signature.2).1 },
        skipBody (addresses signature.2).2) := by
  simp only [function, readSignature, Option.bind_eq_bind, Option.pure_def, Option.bind_assoc,
    Option.map_eq_bind, Function.comp_def, Option.bind_some]

/-- A signature is read exactly if it is there. -/
lemma readSignature_eq_some_iff {decl : FunctionDecl} :
    readSignature tokens = some (decl, rest) ↔
      ∃ taken, tokens = taken ++ rest ∧ IsSignature taken decl := by
  constructor
  · intro h
    rcases hdispatch : dispatch tokens with ⟨value, more⟩
    rw [readSignature, hdispatch] at h
    obtain ⟨⟨head, more'⟩, hheading, h⟩ := Option.bind_eq_some_iff.1 h
    obtain ⟨⟨params, last⟩, hparams, heq⟩ := Option.map_eq_some_iff.1 h
    cases heq
    obtain ⟨word, rfl, hword, -⟩ := dispatch_eq_iff.1 hdispatch
    obtain ⟨taken, rfl, htaken⟩ := heading_eq_some_iff.1 hheading
    obtain ⟨left, inner, right, rfl, hleft, hinner, hright⟩ := paramList_eq_some_iff.1 hparams
    exact ⟨word ++ taken ++ left :: inner ++ [right], by simp,
      .intro hword htaken hleft hinner hright⟩
  · rintro ⟨taken, rfl, htaken⟩
    obtain @⟨word, front, inner, left, right, value, head, params, hword, hheading, hleft, hparams,
      hright⟩ := htaken
    have hhead : ∀ token ∈ (front ++ left :: (inner ++ right :: rest)).head?,
        dispatchOf? token.kind = none := by
      obtain ⟨first, more, rfl, hkind⟩ := hheading.exists_head
      obtain hkind | hkind | hkind := hkind <;> simp [hkind, dispatchOf?]
    have hdispatch := dispatch_eq_iff.2 ⟨word, rfl, hword, fun _ => hhead⟩
    have hread : ∀ rest, heading (front ++ rest) = some (head, rest) := fun rest =>
      heading_eq_some_iff.2 ⟨front, rfl, hheading⟩
    have hlist : paramList.parse (left :: (inner ++ right :: rest)) = some (params, rest) :=
      paramList_eq_some_iff.2 ⟨left, inner, right, rfl, hleft, hparams, hright⟩
    have htokens : word ++ front ++ left :: inner ++ [right] ++ rest =
        word ++ (front ++ left :: (inner ++ right :: rest)) := by simp
    rw [htokens, readSignature, hdispatch]
    simp only [hread, hlist, Option.bind_some, Option.map_some]

/-- No signature is read exactly if none is there. -/
lemma readSignature_eq_none_iff : readSignature tokens = none ↔
    ∀ signature rest decl, tokens = signature ++ rest → ¬IsSignature signature decl := by
  rw [Option.eq_none_iff_forall_ne_some]
  constructor
  · rintro h signature rest decl rfl hsignature
    exact h (decl, rest) (readSignature_eq_some_iff.2 ⟨signature, rfl, hsignature⟩)
  · rintro h ⟨decl, rest⟩ hread
    obtain ⟨signature, htokens, hsignature⟩ := readSignature_eq_some_iff.1 hread
    exact h signature rest decl htokens hsignature

/-- Reading decides what is a signature. -/
lemma isSignature_iff {decl : FunctionDecl} :
    IsSignature tokens decl ↔ readSignature tokens = some (decl, []) := by
  rw [readSignature_eq_some_iff]
  simp

instance (tokens : List Token) (decl : FunctionDecl) : Decidable (IsSignature tokens decl) :=
  decidable_of_iff _ isSignature_iff.symm

end Signatures

/-! ### Addresses -/

section Addresses

variable {tokens rest : List Token} {clause : AddressClause}

/-- The rule for offsets reads offsets. -/
lemma offset?_eq_some_iff {token : Token} {offset : Int} :
    offset? token = some offset ↔ IsOffset token offset := by
  constructor
  · intro h
    unfold offset? at h
    split at h
    · next hkind =>
      split at h
      · next digits htext =>
        obtain ⟨n, hnumber, rfl⟩ := Option.map_eq_some_iff.1 h
        exact ⟨hkind, digits, n, htext, hnumber, rfl⟩
      · cases h
    · cases h
  · rintro ⟨hkind, digits, n, htext, hnumber, rfl⟩
    simp [offset?, hkind, htext, hnumber]

/-- All pairs at the front are read, each with the comma behind it. -/
lemma exists_isPairs (tokens : List Token) :
    ∃ run, tokens = run ++ (addressPairs tokens).2 ∧ IsPairs run (addressPairs tokens).1 ∧
      ¬PairFollows (addressPairs tokens).2 ∧
      (run ≠ [] → ¬CommaFollows run (addressPairs tokens).2) := by
  fun_induction addressPairs tokens with
  | case1 tag number rest offset hoffset hkind pairs last heq ih =>
    obtain ⟨run, hrun, hpairs, hpair, hstop⟩ := ih
    obtain ⟨comma, hrest, hcomma, hnone⟩ := optional_eq_iff.1
      (show optional .comma rest = ((optional .comma rest).1, (optional .comma rest).2) from rfl)
    generalize (optional .comma rest).1 = isSeparated at hcomma
    rw [heq] at hrun hpairs hpair hstop
    refine ⟨tag :: number :: (comma ++ run), ?_,
      .cons hkind (offset?_eq_some_iff.1 hoffset) hcomma hpairs, hpair, fun _ => ?_⟩
    · rw [List.cons_append, List.cons_append, List.append_assoc, ← hrun, ← hrest]
    · rintro ⟨⟨next, hnext, hkind'⟩, hlast⟩
      -- Behind the last pair the comma was just looked for; before, the later pairs tell.
      by_cases hne : run = []
      · subst hne
        rw [List.append_nil] at hlast
        cases hcomma with
        | absent => exact hnone rfl next (by rwa [hrun]) hkind'
        | present hcomma => exact hlast _ rfl hcomma
      · refine hstop hne ⟨⟨next, hnext, hkind'⟩, fun token htoken => hlast token ?_⟩
        rw [← List.cons_append, ← List.cons_append, List.getLast?_append_of_ne_nil _ hne]
        exact htoken
  | case2 tag number rest hnone =>
    refine ⟨[], rfl, .nil, ?_, fun hne => absurd rfl hne⟩
    rintro ⟨hkind, offset, hoffset⟩
    exact hnone offset hkind (offset?_eq_some_iff.2 hoffset)
  | case3 tokens hshort =>
    refine ⟨[], rfl, .nil, ?_, fun hne => absurd rfl hne⟩
    rcases tokens with _ | ⟨tag, _ | ⟨number, more⟩⟩
    · exact id
    · exact id
    · exact (hshort tag number more rfl).elim

/-- Only where a pair follows is one read. -/
lemma IsPairs.eq_nil_iff {pairs : AddressClause} (h : IsPairs tokens pairs) :
    pairs = [] ↔ tokens = [] := by
  cases h <;> simp

/-- Where no pair follows, none is read. -/
lemma addressPairs_of_not_pairFollows (h : ¬PairFollows tokens) :
    addressPairs tokens = ([], tokens) := by
  obtain ⟨run, hrun, hpairs, -⟩ := exists_isPairs tokens
  rcases hread : addressPairs tokens with ⟨pairs, last⟩
  rw [hread] at hrun hpairs
  cases hpairs with
  | nil => rw [hrun, List.nil_append]
  | cons htag hoffset =>
    refine absurd ?_ h
    rw [hrun]
    exact ⟨htag, _, hoffset⟩

/-- Pairs are read up to something that is neither another pair nor a comma behind the last one. -/
lemma IsPairs.addressPairs_eq {pairs : AddressClause} (h : IsPairs tokens pairs)
    (hpair : ¬PairFollows rest) (hcomma : tokens ≠ [] → ¬CommaFollows tokens rest) :
    addressPairs (tokens ++ rest) = (pairs, rest) := by
  induction h with
  | nil => exact addressPairs_of_not_pairFollows hpair
  | @cons tag number comma more offset pairs isSeparated htag hoffset hseparator hmore ih =>
    have hread : addressPairs (more ++ rest) = (pairs, rest) := by
      refine ih fun hne => ?_
      have hlast : (tag :: number :: (comma ++ more)).getLast? = more.getLast? := by
        rw [← List.cons_append, ← List.cons_append, List.getLast?_append_of_ne_nil _ hne]
      rintro ⟨hnext, hmark⟩
      exact hcomma (by simp) ⟨hnext, hlast ▸ hmark⟩
    -- No comma stands where none was taken: a pair is there, or the clause ends.
    have hnone : comma = [] → ∀ token ∈ (more ++ rest).head?, token.kind ≠ .comma := by
      rintro rfl token htoken hkind
      cases hmore with
      | nil => exact hcomma (by simp) ⟨⟨token, htoken, hkind⟩, by simp [hoffset.kind_eq]⟩
      | cons hnext =>
        obtain rfl := Option.some.inj htoken
        simp [hnext] at hkind
    have hoptional : (optional .comma (comma ++ (more ++ rest))).2 = more ++ rest := by
      rw [optional_eq_iff.2 ⟨comma, rfl, hseparator, hnone⟩]
    rw [List.cons_append, List.cons_append, List.append_assoc,
      addressPairs_cons htag (offset?_eq_some_iff.2 hoffset), hoptional, hread]

/-- What a tag finds behind an entry at the front. -/
lemma lookup_cons (tag : String) (first : String × Int) (rest : AddressClause) :
    (first :: rest).lookup tag = if tag = first.1 then some first.2 else rest.lookup tag := by
  rw [List.lookup_cons]
  by_cases h : tag = first.1
  · rw [if_pos h, beq_iff_eq.2 h]
  · rw [if_neg h, beq_eq_false_iff_ne.2 h]

/-- The entries of one tag do not matter to another. -/
lemma lookup_filter_of_ne {tag other : String} (h : tag ≠ other) (clause : AddressClause) :
    (clause.filter (·.1 != other)).lookup tag = clause.lookup tag := by
  induction clause with
  | nil => rfl
  | cons first rest ih =>
    by_cases hfirst : first.1 = other
    · rw [List.filter_cons_of_neg (by simp [hfirst]), ih, lookup_cons, if_neg (by rwa [hfirst])]
    · rw [List.filter_cons_of_pos (by simp [hfirst]), lookup_cons, lookup_cons, ih]

/-- The first entry of a tag is the one that is kept. -/
lemma lookup_keepFirst (tag : String) (clause : AddressClause) :
    (keepFirst clause).lookup tag = clause.lookup tag := by
  induction clause with
  | nil => rfl
  | cons first rest ih =>
    rw [keepFirst, lookup_cons, lookup_cons]
    by_cases htag : tag = first.1
    · rw [if_pos htag, if_pos htag]
    · rw [if_neg htag, if_neg htag, lookup_filter_of_ne htag, ih]

/-- Where no tag occurs twice, an entry that is dropped leaves its tag without one. -/
lemma lookup_filter {clause : AddressClause} (h : (clause.map Prod.fst).Nodup) (tag : String)
    (p : Int → Bool) : (clause.filter (p ·.2)).lookup tag = (clause.lookup tag).filter p := by
  induction clause with
  | nil => rfl
  | cons first rest ih =>
    obtain ⟨hfresh, hrest⟩ := List.nodup_cons.1 h
    have hfilter : (first :: rest).filter (p ·.2) =
        if p first.2 then first :: rest.filter (p ·.2) else rest.filter (p ·.2) := List.filter_cons
    rw [hfilter, lookup_cons]
    by_cases htag : tag = first.1
    · have hnone : rest.lookup tag = none := by
        refine List.lookup_eq_none_iff.2 fun pair hpair => ?_
        have hne : tag ≠ pair.1 := fun heq => hfresh (htag ▸ heq ▸ List.mem_map_of_mem hpair)
        simpa using hne
      have hmore : (rest.filter (p ·.2)).lookup tag = none := by
        rw [ih hrest, hnone]
        rfl
      rw [if_pos htag, Option.filter_some]
      cases hkept : p first.2 with
      | true => rw [if_pos rfl, if_pos rfl, lookup_cons, if_pos htag]
      | false => rw [if_neg Bool.false_ne_true, if_neg Bool.false_ne_true, hmore]
    · cases hkept : p first.2 with
      | true => simp [lookup_cons, htag, ih hrest]
      | false => simp [htag, ih hrest]

/-- Keeping the first entries for each tag drops some entries. -/
lemma keepFirst_sublist (clause : AddressClause) : (keepFirst clause).Sublist clause := by
  induction clause with
  | nil => exact .slnil
  | cons first rest ih => exact (List.filter_sublist.trans ih).cons_cons first

/-- The rule for address clauses keeps what the pairs give. -/
lemma collects_keepFirst (pairs : AddressClause) :
    Collects pairs ((keepFirst pairs).filter (·.2 != sentinelOffset)) where
  sublist := List.filter_sublist.trans (keepFirst_sublist pairs)
  nodup := (List.filter_sublist.map Prod.fst).nodup (nodup_keepFirst pairs)
  lookup_eq tag := by
    rw [lookup_filter (nodup_keepFirst pairs) tag (· != sentinelOffset), lookup_keepFirst]

/-- A clause of some pairs is taken, and it gives what they give. -/
lemma IsPairs.addressClause_parse {pairs : AddressClause} {equals : Token}
    (hequals : equals.kind = .equals) (h : IsPairs tokens pairs) (hne : pairs ≠ [])
    (hpair : ¬PairFollows rest) (hcomma : ¬CommaFollows tokens rest) :
    addressClause.parse (equals :: tokens ++ rest) =
      some ((keepFirst pairs).filter (·.2 != sentinelOffset), rest) := by
  have hexpect : expect .equals (equals :: tokens ++ rest) = some (tokens ++ rest) :=
    expect_eq_some_iff.2 ⟨equals, rfl, hequals⟩
  have hread := h.addressPairs_eq hpair fun _ => hcomma
  cases pairs with
  | nil => exact absurd rfl hne
  | cons first others =>
    simp only [addressClause, hexpect, hread, Option.bind_eq_bind, Option.bind_some,
      Option.pure_def]

/-- The address clause in front of the rest is taken, or there is none. -/
lemma IsAddressPart.addresses_eq {pairs : AddressClause} (h : IsAddressPart tokens pairs rest) :
    addresses (tokens ++ rest) = ((keepFirst pairs).filter (·.2 != sentinelOffset), rest) := by
  cases h with
  | present hequals hrun hne hpair hcomma =>
    rw [addresses, hrun.addressClause_parse hequals hne hpair hcomma, Option.getD_some]
  | absent habsent =>
    have hnone : addressClause.parse rest = none := by
      rcases rest with _ | ⟨equals, rest⟩
      · rfl
      · by_cases hkind : equals.kind = .equals
        · have hread := addressPairs_of_not_pairFollows (habsent equals rfl hkind)
          rw [List.tail_cons] at hread
          simp [addressClause, expect, hkind, hread]
        · simp [addressClause, expect, hkind]
    rw [List.nil_append, addresses, hnone]
    rfl

/-- Behind a signature stands an address clause or none, and it is taken. -/
lemma exists_isAddressPart (tokens : List Token) :
    ∃ run pairs, tokens = run ++ (addresses tokens).2 ∧
      IsAddressPart run pairs (addresses tokens).2 ∧ Collects pairs (addresses tokens).1 := by
  obtain ⟨run, pairs, rest, rfl, hpart⟩ : ∃ run pairs rest, tokens = run ++ rest ∧
      IsAddressPart run pairs rest := by
    rcases tokens with _ | ⟨equals, more⟩
    · exact ⟨[], [], [], rfl, .absent (by simp)⟩
    by_cases hkind : equals.kind = .equals
    · obtain ⟨run, hrun, hpairs, hpair, hcomma⟩ := exists_isPairs more
      by_cases hnil : run = []
      · rw [hnil, List.nil_append] at hrun
        refine ⟨[], [], equals :: more, rfl, .absent fun _ _ _ => ?_⟩
        rwa [List.tail_cons, hrun]
      · have hne := mt hpairs.eq_nil_iff.1 hnil
        exact ⟨equals :: run, _, _, by rw [List.cons_append, ← hrun],
          .present hkind hpairs hne hpair (hcomma hnil)⟩
    · refine ⟨[], [], equals :: more, rfl, .absent fun token htoken hequals => ?_⟩
      obtain rfl := Option.some.inj htoken
      exact absurd hequals hkind
  rw [hpart.addresses_eq]
  exact ⟨run, pairs, rfl, hpart, collects_keepFirst pairs⟩

end Addresses

/-! ### Bodies -/

section Bodies

variable {tokens rest : List Token}

/-- A token counts for its kind. -/
lemma countKind_cons (kind : TokenKind) (token : Token) (tokens : List Token) :
    countKind kind (token :: tokens) =
      countKind kind tokens + if token.kind = kind then 1 else 0 := by
  rw [countKind, List.countP_cons, countKind]
  by_cases h : token.kind = kind <;> simp [h]

/-- Behind a token the braces are closed that are still open there. -/
lemma Closes.cons {depth depth' : Nat} {token : Token} (h : Closes depth tokens rest)
    (hend : token.kind ≠ .eof) (hpos : 0 < depth')
    (hdepth : depth + (if token.kind = .closeBrace then 1 else 0) =
      depth' + if token.kind = .openBrace then 1 else 0) :
    Closes depth' (token :: tokens) rest where
  inside := List.forall_mem_cons.2 ⟨hend, h.inside⟩
  isOpen := by
    intro front hfront hne
    cases front with
    | nil => simpa [countKind] using hpos
    | cons first front =>
      obtain ⟨rfl, hmore⟩ := List.cons_prefix_cons.1 hfront
      have hless := h.isOpen front hmore fun heq => hne (by rw [heq])
      rw [countKind_cons, countKind_cons]
      omega
  ends := by
    rw [countKind_cons, countKind_cons]
    obtain hends | ⟨hends, hrest⟩ := h.ends
    · exact .inl (by omega)
    · exact .inr ⟨by omega, hrest⟩

/-- Where no brace is open, none is closed. -/
lemma closes_nil_zero (rest : List Token) : Closes 0 [] rest :=
  ⟨by simp, fun _ hfront hne => absurd (List.prefix_nil.1 hfront) hne, .inl rfl⟩

/-- At the end of the text the open braces stay open. -/
lemma closes_nil {depth : Nat} (hpos : 0 < depth) (hend : ∀ token ∈ rest.head?, token.kind = .eof) :
    Closes depth [] rest :=
  ⟨by simp, fun _ hfront hne => absurd (List.prefix_nil.1 hfront) hne,
    .inr ⟨by simpa [countKind] using hpos, hend⟩⟩

/-- What a token does to a block with so many open braces: the text ends, or the last brace is
closed, or the block goes on with as many open braces as there are now. -/
inductive BlockStep (depth : Nat) (token : Token) : Prop
  | ends (hend : token.kind = .eof)
  | closes (hclose : token.kind = .closeBrace) (hdepth : depth = 1)
  | goesOn (depth' : Nat) (hpos : 0 < depth') (hend : token.kind ≠ .eof)
      (hdepth : depth + (if token.kind = .openBrace then 1 else 0) =
        depth' + if token.kind = .closeBrace then 1 else 0)
      (hskip : ∀ rest, skipBlock depth (token :: rest) = skipBlock depth' rest)

/-- A token does one of these things to an open block. -/
lemma blockStep {depth : Nat} (hpos : 0 < depth) (token : Token) : BlockStep depth token := by
  by_cases hend : token.kind = .eof
  · exact .ends hend
  by_cases hopen : token.kind = .openBrace
  · exact .goesOn (depth + 1) (Nat.succ_pos depth) hend (by simp [hopen])
      fun rest => by simp [skipBlock, hopen]
  by_cases hclose : token.kind = .closeBrace
  · by_cases hlast : depth ≤ 1
    · exact .closes hclose (by omega)
    · exact .goesOn (depth - 1) (by omega) hend (by simp [hclose]; omega)
        fun rest => by simp [skipBlock, hclose, hlast]
  · exact .goesOn depth hpos hend (by simp [hopen, hclose])
      fun rest => by simp [skipBlock, hend, hopen, hclose]

/-- All braces that are open are closed, or the text ends before.  The induction is on the tokens,
for any number of braces. -/
lemma exists_closes {depth : Nat} (hpos : 0 < depth) (tokens : List Token) :
    ∃ taken, tokens = taken ++ skipBlock depth tokens ∧
      Closes depth taken (skipBlock depth tokens) := by
  induction tokens generalizing depth with
  | nil => exact ⟨[], rfl, closes_nil hpos (by simp [skipBlock])⟩
  | cons token rest ih =>
    cases blockStep hpos token with
    | ends hend =>
      have hskip : skipBlock depth (token :: rest) = token :: rest := by simp [skipBlock, hend]
      rw [hskip]
      exact ⟨[], rfl, closes_nil hpos (by simpa using hend)⟩
    | closes hclose hdepth =>
      have hskip : skipBlock depth (token :: rest) = rest := by simp [skipBlock, hclose, hdepth]
      rw [hskip]
      exact ⟨[token], rfl, (closes_nil_zero rest).cons (by simp [hclose]) hpos
        (by simp [hclose, hdepth])⟩
    | goesOn depth' hpos' hend hdepth hskip =>
      obtain ⟨taken, hrest, hcloses⟩ := ih hpos'
      rw [hskip]
      exact ⟨token :: taken, congrArg (token :: ·) hrest, hcloses.cons hend hpos hdepth.symm⟩

/-- Behind a function stands a body or none, and it is passed over. -/
lemma exists_isBody (tokens : List Token) :
    ∃ taken, tokens = taken ++ skipBody tokens ∧ IsBody taken (skipBody tokens) := by
  cases tokens with
  | nil => exact ⟨[], rfl, .absent (by simp [skipBody])⟩
  | cons left rest =>
    by_cases hleft : left.kind = .openBrace
    · have hskip : skipBody (left :: rest) = skipBlock 1 rest := by
        simp [skipBody, skipBlock, hleft]
      obtain ⟨taken, hrest, hcloses⟩ := exists_closes Nat.one_pos rest
      rw [hskip]
      exact ⟨left :: taken, congrArg (left :: ·) hrest, .block hleft hcloses⟩
    · have hskip : skipBody (left :: rest) = left :: rest := by simp [skipBody, hleft]
      rw [hskip]
      exact ⟨[], rfl, .absent (by simpa using hleft)⟩

end Bodies

end Grammar

open Grammar

/-- At any cursor the rule for functions accepts exactly the functions.  If the tokens there start
with a signature, it gives the function with this signature and moves the cursor over it, and over
the address clause and the body that follow; the addresses are those of the clause.  Otherwise it
does not match, and the cursor stays. -/
theorem runRule?_function (before left : List Token) (place : Position) :
    (∀ signature rest decl, left = signature ++ rest → IsSignature signature decl →
      ∃ run body last pairs addresses, rest = run ++ (body ++ last) ∧
        IsAddressPart run pairs (body ++ last) ∧ IsBody body last ∧ Collects pairs addresses ∧
          (Cursor.between before left place).runRule? function =
            some (some { decl with addresses },
              .between (before ++ (signature ++ (run ++ body))) last place)) ∧
      ((∀ signature rest decl, left = signature ++ rest → ¬IsSignature signature decl) →
        (Cursor.between before left place).runRule? function =
          some (none, .between before left place)) := by
  constructor
  · rintro signature rest decl rfl hsignature
    obtain ⟨run, pairs, hrest, hrun, hcollects⟩ := exists_isAddressPart rest
    obtain ⟨body, hbehind, hbody⟩ := exists_isBody (addresses rest).2
    have htokens : rest = run ++ (body ++ skipBody (addresses rest).2) := by rw [← hbehind, ← hrest]
    have hleft : signature ++ rest =
        signature ++ (run ++ body) ++ skipBody (addresses rest).2 := by
      rw [List.append_assoc, List.append_assoc, ← htokens]
    have hread : readSignature (signature ++ rest) = some (decl, rest) :=
      readSignature_eq_some_iff.2 ⟨signature, rfl, hsignature⟩
    have hparse : function.parse (signature ++ (run ++ body) ++ skipBody (addresses rest).2) =
        some ({ decl with addresses := (addresses rest).1 }, skipBody (addresses rest).2) := by
      rw [← hleft, function_parse, hread, Option.map_some]
    refine ⟨run, body, skipBody (addresses rest).2, pairs, (addresses rest).1, htokens, ?_, hbody,
      hcollects, ?_⟩
    · rwa [← hbehind]
    · rw [hleft]
      exact Cursor.runRule?_between_eq_some hparse
  · intro hnone
    refine Cursor.runRule?_between_eq_none ?_
    rw [function_parse, readSignature_eq_none_iff.2 hnone, Option.map_none]

/-- The tokens of `virtual const gd::Map<int, A<B*>>& get(int x, A<B>*,)`, all at one place. -/
def getterSignature : List Token :=
  [(.virtualWord, "virtual"), (.constWord, "const"), (.identifier, "gd"), (.scope, "::"),
    (.identifier, "Map"), (.openAngle, "<"), (.identifier, "int"), (.comma, ","),
    (.identifier, "A"), (.openAngle, "<"), (.identifier, "B"), (.star, "*"), (.closeAngle, ">"),
    (.closeAngle, ">"), (.ampersand, "&"), (.identifier, "get"), (.openParen, "("),
    (.identifier, "int"), (.identifier, "x"), (.comma, ","), (.identifier, "A"), (.openAngle, "<"),
    (.identifier, "B"), (.closeAngle, ">"), (.star, "*"), (.comma, ","), (.closeParen, ")")].map
      fun (kind, text) => ⟨kind, text, .start⟩

/-- The function that they write. -/
def getter : FunctionDecl where
  name := "get"
  dispatch := .virtual
  returnType := some (.mk ⟨["gd"], "Map"⟩ [.mk ⟨[], "int"⟩ [] false 0 0,
    .mk ⟨[], "A"⟩ [.mk ⟨[], "B"⟩ [] false 1 0] false 0 0] true 0 1)
  params := [{ type := .mk ⟨[], "int"⟩ [] false 0 0, name := some "x" },
    { type := .mk ⟨[], "A"⟩ [.mk ⟨[], "B"⟩ [] false 0 0] false 1 0 }]

/-- The tokens of `= win 0x1F, mac 0x9999999 win 0x2 { { } }; int`, all at one place. -/
def getterRest : List Token :=
  [(.equals, "="), (.identifier, "win"), (.number, "0x1F"), (.comma, ","), (.identifier, "mac"),
    (.number, "0x9999999"), (.identifier, "win"), (.number, "0x2"), (.openBrace, "\x7b"),
    (.openBrace, "\x7b"), (.closeBrace, "\x7d"), (.closeBrace, "\x7d"), (.semicolon, ";"),
    (.identifier, "int")].map fun (kind, text) => ⟨kind, text, .start⟩

/-- A function with all its parts is read; in front of its parameters none starts. -/
theorem runRule?_function_getter :
    IsSignature getterSignature getter ∧
      (∃ run body last pairs addresses, getterRest = run ++ (body ++ last) ∧
        IsAddressPart run pairs (body ++ last) ∧ IsBody body last ∧ Collects pairs addresses ∧
          (Cursor.between [] (getterSignature ++ getterRest) .start).runRule? function =
            some (some { getter with addresses },
              .between ([] ++ (getterSignature ++ (run ++ body))) last .start)) ∧
      (Cursor.between getterSignature getterRest .start).runRule? function =
        some (none, .between getterSignature getterRest .start) := by
  have hsignature : IsSignature getterSignature getter := by decide +kernel
  have hnone : readSignature getterRest = none := by decide +kernel
  refine ⟨hsignature, ?_, ?_⟩
  · exact (runRule?_function [] _ .start).1 getterSignature getterRest getter rfl hsignature
  · exact (runRule?_function getterSignature _ .start).2 (readSignature_eq_none_iff.1 hnone)

end BindingSync.Binding
