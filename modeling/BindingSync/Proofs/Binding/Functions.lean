import BindingSync.Proofs.Binding.Types

/-!
# Reading functions

Parameters, address clauses and whole functions are given back by their rules.  What ties the
rules together is that the tokens of a construct never start like something else that may stand
in its place.
-/

namespace BindingSync

open BindingSync.Text

namespace Binding

open BindingSync.Binding.Lexeme

namespace Grammar

/-! ### Parameters -/

/-- A well-formed parameter is read up to a token that belongs to no parameter. -/
lemma param_tokensAt {value : ParamDecl} (h : value.WellFormed) (position : Position)
    {rest : List Token} (hends : EndsType rest)
    (hrest : ∀ token ∈ rest.head?, token.kind ≠ .identifier) :
    param.parse (tokensAt position (ofParam value) ++ rest) = some (value, rest) := by
  obtain ⟨type, name?⟩ := value
  cases name? with
  | none =>
    have hname : paramName rest = (none, rest) := by
      cases rest with
      | nil => rfl
      | cons token rest =>
        have hkind : token.kind ≠ .identifier := hrest token rfl
        simp [paramName, hkind]
    simp only [param, ofParam, List.append_nil, Option.bind_eq_bind]
    rw [typeExpr_tokensAt h.type position hends, Option.bind_some, hname]
    rfl
  | some name =>
    have hname : ∀ position, EndsType (⟨.identifier, name, position⟩ :: rest) := by
      simp [EndsType]
    simp only [param, ofParam, tokensAt_append, tokensAt_blank, tokensAt_token, tokensAt_nil,
      List.append_assoc, List.cons_append, List.nil_append, Option.bind_eq_bind]
    rw [typeExpr_tokensAt h.type position (hname _), Option.bind_some]
    rfl

/-- Behind a parameter and a comma there are more parameters. -/
lemma paramsUntilClose_of_comma {tokens rest rest' : List Token} {first : ParamDecl}
    (hclose : expect .closeParen tokens = none) (hfirst : param.parse tokens = some (first, rest))
    (hcomma : expect .comma rest = some rest') :
    paramsUntilClose tokens =
      (paramsUntilClose rest').map fun (others, last) => (first :: others, last) := by
  rw [paramsUntilClose_eq, hclose, hfirst]
  simp only [Option.bind_some, hcomma]

/-- A parameter with no comma behind it is the last one. -/
lemma paramsUntilClose_of_close {tokens rest last : List Token} {first : ParamDecl}
    (hclose : expect .closeParen tokens = none) (hfirst : param.parse tokens = some (first, rest))
    (hcomma : expect .comma rest = none) (hlast : expect .closeParen rest = some last) :
    paramsUntilClose tokens = some ([first], last) := by
  rw [paramsUntilClose_eq, hclose, hfirst]
  simp only [Option.bind_some, hcomma, hlast, Option.map_some]

/-- No parameter starts with a closing parenthesis. -/
lemma expect_closeParen_param (param : ParamDecl) (position : Position) (rest : List Token) :
    expect .closeParen (tokensAt position (ofParam param) ++ rest) = none := by
  have hhead : ∀ token ∈ (tokensAt position (ofParam param) ++ rest).head?,
      token.kind ≠ .closeParen := by
    intro token htoken
    rw [ofParam, tokensAt_append, List.append_assoc] at htoken
    rcases head_type _ _ _ token htoken with hkind | hkind <;> rw [hkind] <;> decide
  cases htokens : tokensAt position (ofParam param) ++ rest with
  | nil => rfl
  | cons token tokens => exact expect_of_ne (hhead token (by rw [htokens]; rfl)) tokens

/-- Parameters are read up to the closing parenthesis. -/
lemma paramsUntilClose_tokensAt {params : List ParamDecl}
    (h : ∀ param ∈ params, param.WellFormed) (position : Position) {close : Token}
    (hclose : close.kind = .closeParen) (rest : List Token) :
    paramsUntilClose (tokensAt position (separated comma (params.map ofParam)) ++ close :: rest) =
      some (params, rest) := by
  induction params generalizing position with
  | nil =>
    rw [paramsUntilClose]
    simp [separated, expect, hclose]
  | cons first others ih =>
    obtain ⟨hfirst, hothers⟩ := List.forall_mem_cons.1 h
    cases others with
    | nil =>
      have hends : EndsType (close :: rest) := by simp [EndsType, hclose]
      have hparse := param_tokensAt hfirst position hends (by simp [hclose])
      simp only [List.map_cons, List.map_nil, separated, List.flatMap_nil, List.append_nil]
      exact paramsUntilClose_of_close (expect_closeParen_param _ _ _) hparse
        (expect_of_ne (by simp [hclose]) rest) (by simp [expect, hclose])
    | cons second others =>
      rw [List.map_cons, List.map_cons, separated_cons_cons, ← List.map_cons, List.append_assoc,
        tokensAt_append, tokensAt_append, List.append_assoc]
      simp only [comma, tokensAt_token, tokensAt_blank, tokensAt_nil, List.cons_append,
        List.nil_append]
      have hends : ∀ position rest,
          EndsType (⟨.comma, String.singleton ',', position⟩ :: rest) := by
        simp [EndsType]
      have hparse := fun position' rest =>
        param_tokensAt hfirst position (hends position' rest) (by simp)
      rw [paramsUntilClose_of_comma (expect_closeParen_param _ _ _) (hparse _ _)
        (expect_cons _ _ _ _)]
      have hrest := ih hothers
      rw [comma] at hrest
      rw [hrest]
      rfl

/-- Parameters in parentheses are read. -/
lemma paramList_tokensAt {params : List ParamDecl} (h : ∀ param ∈ params, param.WellFormed)
    (position : Position) (rest : List Token) :
    paramList.parse (tokensAt position (ofParams params) ++ rest) = some (params, rest) := by
  simp only [paramList, ofParams, tokensAt_token, tokensAt_append, tokensAt_nil, List.cons_append,
    List.append_assoc, List.nil_append, expect_cons, Option.bind_some]
  exact paramsUntilClose_tokensAt h _ rfl rest

/-! ### Addresses -/

/-- An offset that is not negative is read from its hexadecimal form. -/
lemma offset?_hexOfInt {offset : Int} (h : 0 ≤ offset) (position : Position) :
    offset? ⟨.number, hexOfInt offset, position⟩ = some offset := by
  rw [hexOfInt_eq h, offset?, if_pos rfl]
  simp [hexNumber?_toDigits, Int.toNat_of_nonneg h]

/-- A tag and an offset are one pair; more may follow, with or without a comma. -/
lemma addressPairs_cons {tag number : Token} {offset : Int} (hkind : tag.kind = .identifier)
    (hoffset : offset? number = some offset) (rest : List Token) :
    addressPairs (tag :: number :: rest) =
      ((tag.text, offset) :: (addressPairs (optional .comma rest).2).1,
        (addressPairs (optional .comma rest).2).2) := by
  rw [addressPairs]
  simp [hkind, hoffset]

/-- Without a tag there is no pair. -/
lemma addressPairs_of_head {tokens : List Token}
    (h : ∀ token ∈ tokens.head?, token.kind ≠ .identifier) :
    addressPairs tokens = ([], tokens) := by
  cases tokens with
  | nil => simp [addressPairs]
  | cons first rest =>
    have hkind : first.kind ≠ .identifier := h first rfl
    cases rest with
    | nil => simp [addressPairs]
    | cons second rest => simp [addressPairs, hkind]

/-- Pairs of a tag and an offset are read up to a token that is no tag. -/
lemma addressPairs_tokensAt {clause : AddressClause} (h : ∀ pair ∈ clause, 0 ≤ pair.2)
    {rest : List Token} (hidentifier : ∀ token ∈ rest.head?, token.kind ≠ .identifier)
    (hcomma : ∀ token ∈ rest.head?, token.kind ≠ .comma) (position : Position) :
    addressPairs (tokensAt position (separated comma (clause.map ofAddress)) ++ rest) =
      (clause, rest) := by
  induction clause generalizing position with
  | nil => exact addressPairs_of_head hidentifier
  | cons pair others ih =>
    obtain ⟨hpair, hothers⟩ := List.forall_mem_cons.1 h
    cases others with
    | nil =>
      simp only [List.map_cons, List.map_nil, separated, List.flatMap_nil, List.append_nil,
        ofAddress,
        tokensAt_token, tokensAt_blank, tokensAt_nil, List.cons_append, List.nil_append]
      rw [addressPairs_cons rfl (offset?_hexOfInt hpair _), optional_of_head hcomma,
        addressPairs_of_head hidentifier]
    | cons second others =>
      have hrest := ih hothers
      rw [List.map_cons, List.map_cons, separated_cons_cons, ← List.map_cons]
      simp only [ofAddress, comma, tokensAt_token, tokensAt_blank, List.cons_append,
        List.nil_append] at hrest ⊢
      rw [addressPairs_cons rfl (offset?_hexOfInt hpair _), optional_cons, hrest]

/-- Where no tag occurs twice, all entries are the first ones for their tags. -/
lemma keepFirst_eq_self {clause : AddressClause} (h : (clause.map Prod.fst).Nodup) :
    keepFirst clause = clause := by
  induction clause with
  | nil => rfl
  | cons pair others ih =>
    obtain ⟨hfresh, hothers⟩ := List.nodup_cons.1 h
    rw [keepFirst, ih hothers, List.filter_eq_self.2 fun other hmem => ?_]
    have hne : other.1 ≠ pair.1 := fun heq => hfresh (heq ▸ List.mem_map_of_mem hmem)
    simpa using hne

/-- A well-formed address clause is read up to the semicolon behind it. -/
lemma addresses_tokensAt {clause : AddressClause} (h : clause.WellFormed) (position : Position)
    {semicolon : Token} (hsemicolon : semicolon.kind = .semicolon) (rest : List Token) :
    addresses (tokensAt position (ofAddresses clause) ++ semicolon :: rest) =
      (clause, semicolon :: rest) := by
  unfold ofAddresses
  split
  · next hnil =>
    have hexpect : expect .equals (semicolon :: rest) = none :=
      expect_of_ne (by simp [hsemicolon]) rest
    simp [addresses, addressClause, hexpect, hnil]
  · next hne =>
    have hpairs : ∀ position, addressPairs (tokensAt position
        (separated comma (clause.map ofAddress)) ++ semicolon :: rest) =
          (clause, semicolon :: rest) :=
      addressPairs_tokensAt h.nonneg (by simp [hsemicolon]) (by simp [hsemicolon])
    have hkept : (keepFirst clause).filter (·.2 != sentinelOffset) = clause := by
      rw [keepFirst_eq_self h.distinct, List.filter_eq_self]
      exact fun pair hmem => by simpa using h.known pair hmem
    simp only [addresses, addressClause, tokensAt_blank, tokensAt_token, List.cons_append,
      expect_cons, Option.bind_eq_bind, Option.bind_some, hpairs]
    cases clause with
    | nil => exact absurd rfl hne
    | cons pair others => simp [hkept]

/-! ### Functions -/

/-- Where no dispatch keyword stands in front, there is no dispatch. -/
lemma dispatch_of_head {tokens : List Token}
    (h : ∀ token ∈ tokens.head?, dispatchOf? token.kind = none) :
    dispatch tokens = (.none, tokens) := by
  cases tokens with
  | nil => rfl
  | cons token rest =>
    have hnone := h token rfl
    simp [dispatch, hnone]

/-- The head of a heading is a tilde, a `const` or an identifier. -/
lemma head_heading (decl : FunctionDecl) (position : Position) (rest : List Token) :
    ∀ token ∈ (tokensAt position (ofHeading decl) ++ rest).head?,
      token.kind = .tilde ∨ token.kind = .constWord ∨ token.kind = .identifier := by
  intro token htoken
  unfold ofHeading at htoken
  split at htoken
  · obtain rfl : _ = token := by simpa using htoken
    exact .inl rfl
  · rw [tokensAt_append, List.append_assoc] at htoken
    exact .inr (head_type _ _ _ token htoken)

/-- The keyword of a dispatch is read in front of a heading. -/
lemma dispatch_tokensAt (value : Dispatch) (decl : FunctionDecl) (position position' : Position)
    (rest : List Token) :
    dispatch
        (tokensAt position (ofDispatch value) ++ (tokensAt position' (ofHeading decl) ++ rest)) =
      (value, tokensAt position' (ofHeading decl) ++ rest) := by
  cases value with
  | none =>
    refine dispatch_of_head fun token htoken => ?_
    rcases head_heading decl _ _ token htoken with hkind | hkind | hkind <;> rw [hkind] <;> rfl
  | inlined => rfl
  | virtual => rfl
  | static => rfl
  | callback => rfl

/-- Without a tilde in front a heading has a return type. -/
lemma heading_of_head {tokens : List Token} (h : ∀ token ∈ tokens.head?, token.kind ≠ .tilde) :
    heading tokens = heading.typed tokens := by
  unfold heading
  split
  · next tilde name rest =>
    have hkind : tilde.kind ≠ .tilde := h tilde rfl
    rw [if_neg fun hkinds => hkind hkinds.1]
  · rfl

/-- A well-formed heading is read. -/
lemma heading_tokensAt {decl : FunctionDecl} (h : decl.HeadingWellFormed) (position : Position)
    (rest : List Token) :
    heading (tokensAt position (ofHeading decl) ++ rest) =
      some (⟨decl.name, decl.returnType⟩, rest) := by
  unfold FunctionDecl.HeadingWellFormed at h
  cases hreturn : decl.returnType with
  | none =>
    rw [hreturn] at h
    obtain ⟨-, word, hname, -⟩ := h
    simp [ofHeading, hreturn, hname, heading]
  | some type =>
    rw [hreturn] at h
    obtain ⟨-, htype, -⟩ := h
    have hhead : ∀ rest, ∀ token ∈ (tokensAt position (ofType type) ++ rest).head?,
        token.kind ≠ .tilde := fun rest token htoken => by
      rcases head_type _ _ _ token htoken with hkind | hkind <;> rw [hkind] <;> decide
    have hname : ∀ position, EndsType (⟨.identifier, decl.name, position⟩ :: rest) := by
      simp [EndsType]
    simp only [ofHeading, hreturn, tokensAt_append, tokensAt_blank, tokensAt_token, tokensAt_nil,
      List.append_assoc, List.cons_append, List.nil_append]
    rw [heading_of_head (hhead _), heading.typed, typeExpr_tokensAt htype position (hname _)]
    rfl

/-- A well-formed function is read up to the semicolon behind it. -/
lemma function_tokensAt {decl : FunctionDecl} (h : decl.WellFormed) (position : Position)
    (rest : List Token) :
    ∃ semicolon : Token, semicolon.kind = .semicolon ∧ function.parse
      (tokensAt position (ofFunction decl) ++ rest) = some (decl, semicolon :: rest) := by
  have hheading := fun position rest => heading_tokensAt h.heading position rest
  have haddresses := fun (position position' : Position) rest =>
    addresses_tokensAt h.addresses position
      (show Token.kind ⟨.semicolon, String.singleton ';', position'⟩ = .semicolon from rfl) rest
  have hbody : ∀ position, skipBody (⟨.semicolon, String.singleton ';', position⟩ :: rest) =
      ⟨.semicolon, String.singleton ';', position⟩ :: rest := by
    simp [skipBody]
  have hdestructor : decl.returnType.isNone = decl.isDestructor := h.isDestructor_eq.symm
  simp only [ofFunction, tokensAt_blank, tokensAt_append, tokensAt_token, tokensAt_nil,
    List.append_assoc, List.cons_append, List.nil_append, function, dispatch_tokensAt,
    Option.bind_eq_bind, hheading, Option.bind_some, paramList_tokensAt h.params, haddresses,
    hbody, hdestructor]
  exact ⟨_, rfl, rfl⟩

/-- No function starts with a semicolon. -/
lemma function_of_semicolon {semicolon : Token} (h : semicolon.kind = .semicolon)
    (rest : List Token) : function.parse (semicolon :: rest) = none := by
  have hdispatch : dispatch (semicolon :: rest) = (.none, semicolon :: rest) :=
    dispatch_of_head (by simp [h, dispatchOf?])
  have hheading : heading (semicolon :: rest) = none := by
    rw [heading_of_head (by simp [h]), heading.typed, typeExpr_of_head (by simp [h]) (by simp [h])]
    rfl
  simp [function, hdispatch, hheading]

/-- The functions of a body are found in their order. -/
lemma scan_tokensAt {functions : List FunctionDecl} (h : ∀ decl ∈ functions, decl.WellFormed)
    (found : List FunctionDecl) (position : Position) :
    function.scan found (tokensAt position (functions.flatMap ofFunction)) =
      found.reverse ++ functions := by
  induction functions generalizing found position with
  | nil => simp [Rule.scan]
  | cons decl others ih =>
    obtain ⟨hdecl, hothers⟩ := List.forall_mem_cons.1 h
    rw [List.flatMap_cons, tokensAt_append]
    obtain ⟨semicolon, hkind, hparse⟩ := function_tokensAt hdecl position
      (tokensAt (position.afterAll (textOf (ofFunction decl))) (others.flatMap ofFunction))
    rw [Rule.scan_of_parse hparse, Rule.scan_of_none (function_of_semicolon hkind _), ih hothers]
    simp

end Grammar

end Binding

end BindingSync
