import Mathlib.Data.List.Basic
import Mathlib.Data.List.TakeWhile
import Mathlib.Tactic.Common
import BindingSync.Proofs.Binding.Loops

/-!
# Rules that look at no place

The rules of the grammar look at the kinds and the texts of tokens and never at their places:
they take tokens at other places as they take them where they are (`Rule.IsBlind`).  The places
may change by any function of the kind of a token and its old place.
-/

namespace BindingSync.Binding

namespace Token

/-- The token at another place, which may depend on what the token is. -/
def moved (g : TokenKind → Position → Position) (token : Token) : Token :=
  { token with position := g token.kind token.position }

variable (g : TokenKind → Position → Position) (token : Token)

@[simp] lemma kind_moved : (token.moved g).kind = token.kind := rfl

@[simp] lemma text_moved : (token.moved g).text = token.text := rfl

@[simp] lemma position_moved : (token.moved g).position = g token.kind token.position := rfl

end Token

variable {α β : Type} {g : TokenKind → Position → Position}

/-- What was read, with the tokens behind it at other places. -/
def movedBehind (g : TokenKind → Position → Position) (read : α × List Token) : α × List Token :=
  (read.1, read.2.map (Token.moved g))

@[simp] lemma movedBehind_mk (value : α) (rest : List Token) :
    movedBehind g (value, rest) = (value, rest.map (Token.moved g)) := rfl

@[simp] lemma fst_movedBehind (read : α × List Token) : (movedBehind g read).1 = read.1 := rfl

@[simp] lemma snd_movedBehind (read : α × List Token) :
    (movedBehind g read).2 = read.2.map (Token.moved g) := rfl

/-- What is read after something was read may be read with the tokens at other places. -/
lemma bind_movedBehind {next : α × List Token → Option (β × List Token)}
    (h : ∀ value rest, next (value, rest.map (Token.moved g)) =
      (next (value, rest)).map (movedBehind g)) (read : Option (α × List Token)) :
    (read.map (movedBehind g)).bind next = (read.bind next).map (movedBehind g) := by
  cases read with
  | none => rfl
  | some pair => exact h pair.1 pair.2

/-- What is read after some tokens were taken may be read with the tokens at other places. -/
lemma bind_moved {next : List Token → Option (β × List Token)}
    (h : ∀ rest, next (rest.map (Token.moved g)) = (next rest).map (movedBehind g))
    (left : Option (List Token)) :
    (left.map (List.map (Token.moved g))).bind next = (left.bind next).map (movedBehind g) := by
  cases left with
  | none => rfl
  | some rest => exact h rest

/-- The rule takes tokens at other places as it takes them where they are. -/
def Rule.IsBlind (rule : Rule α) : Prop :=
  ∀ g tokens, rule.parse (tokens.map (Token.moved g)) = (rule.parse tokens).map (movedBehind g)

/-! ### Loops over rules -/

/-- A blind rule reads the same items behind commas. -/
lemma Rule.IsBlind.afterCommas {rule : Rule α} (h : rule.IsBlind) (tokens : List Token) :
    rule.afterCommas (tokens.map (Token.moved g)) =
      (rule.afterCommas tokens).map (movedBehind g) := by
  fun_induction Rule.afterCommas rule tokens with
  | case1 => simp [Rule.afterCommas]
  | case2 token rest hcomma hnone =>
    have hmoved : (token.moved g).kind = .comma := hcomma
    rw [List.map_cons, Rule.afterCommas_of_comma hmoved, h, hnone]
    rfl
  | case3 token rest hcomma value rest' hparse ih =>
    have hmoved : (token.moved g).kind = .comma := hcomma
    rw [List.map_cons, Rule.afterCommas_of_comma hmoved, h, hparse, Option.map_some,
      Option.bind_some, movedBehind_mk, ih]
    simp [Function.comp_def]
  | case4 token rest hcomma => simp [Rule.afterCommas, hcomma]

/-- A blind rule finds the same constructs in tokens at other places. -/
lemma Rule.IsBlind.scan {rule : Rule α} (h : rule.IsBlind) (found : List α)
    (tokens : List Token) :
    rule.scan found (tokens.map (Token.moved g)) = rule.scan found tokens := by
  fun_induction Rule.scan rule found tokens with
  | case1 => rw [List.map_nil, Rule.scan]
  | case2 found token rest value rest' hparse ih =>
    have hmoved := h g (token :: rest)
    rw [List.map_cons, hparse] at hmoved
    rw [List.map_cons, Rule.scan_cons, hmoved]
    exact ih
  | case3 found token rest hparse ih =>
    have hmoved := h g (token :: rest)
    rw [List.map_cons, hparse] at hmoved
    rw [List.map_cons, Rule.scan_cons, hmoved]
    exact ih

namespace Grammar

/-! ### Types -/

lemma headKind_moved (tokens : List Token) :
    (tokens.map (Token.moved g)).head?.map Token.kind = tokens.head?.map Token.kind := by
  cases tokens <;> rfl

@[simp] lemma optional_moved (kind : TokenKind) (tokens : List Token) :
    optional kind (tokens.map (Token.moved g)) = movedBehind g (optional kind tokens) := by
  cases tokens with
  | nil => rfl
  | cons token rest =>
    by_cases h : token.kind = kind <;> simp [optional, h]

@[simp] lemma expect_moved (kind : TokenKind) (tokens : List Token) :
    expect kind (tokens.map (Token.moved g)) =
      (expect kind tokens).map (List.map (Token.moved g)) := by
  cases tokens with
  | nil => rfl
  | cons token rest =>
    by_cases h : token.kind = kind <;> simp [expect, h]

@[simp] lemma countOf_moved (kind : TokenKind) (tokens : List Token) :
    countOf kind (tokens.map (Token.moved g)) = movedBehind g (countOf kind tokens) := by
  simp only [countOf, List.takeWhile_map, List.dropWhile_map, List.length_map]
  rfl

@[simp] lemma scopedNames_moved (tokens : List Token) :
    scopedNames (tokens.map (Token.moved g)) = movedBehind g (scopedNames tokens) := by
  fun_induction scopedNames tokens with
  | case1 mark name rest h names last heq ih => simp [scopedNames, h, ih, heq]
  | case2 mark name rest h => simp [scopedNames, h]
  | case3 rest hshort =>
    rcases rest with _ | ⟨mark, _ | ⟨name, rest⟩⟩
    · rfl
    · rfl
    · exact absurd rfl (hshort mark name rest)

/-- The rule for names looks at no place. -/
lemma isBlind_qualifiedName : qualifiedName.IsBlind := by
  intro g tokens
  cases tokens with
  | nil => rfl
  | cons token rest =>
    by_cases h : token.kind = .identifier <;> simp [qualifiedName, frontName, h]

/-- The rule for template clauses looks at no place if that for types does not. -/
lemma isBlind_templateClause {type : Rule TypeExpr} (h : type.IsBlind) :
    (templateClause type).IsBlind := by
  intro g tokens
  simp only [templateClause, expect_moved, Option.bind_eq_bind, Option.pure_def]
  refine bind_moved (fun rest => ?_) _
  rw [h]
  refine bind_movedBehind (fun arg rest => ?_) _
  simp only [h.afterCommas]
  refine bind_movedBehind (fun args rest => ?_) _
  simp only [expect_moved]
  refine bind_moved (fun rest => rfl) _

lemma templateArgs_moved {clause? : Option (Rule (List TypeExpr))}
    (h : ∀ clause ∈ clause?, clause.IsBlind) (tokens : List Token) :
    templateArgs clause? (tokens.map (Token.moved g)) =
      (templateArgs clause? tokens).map (movedBehind g) := by
  simp only [templateArgs, headKind_moved]
  split
  · cases clause? with
    | none => rfl
    | some clause => exact h clause rfl g tokens
  · rfl

@[simp] lemma typeMarks_moved (leadingConst : Bool) (name : QualifiedName) (args : List TypeExpr)
    (tokens : List Token) :
    typeMarks leadingConst name args (tokens.map (Token.moved g)) =
      movedBehind g (typeMarks leadingConst name args tokens) := by
  simp [typeMarks]

lemma isBlind_typeWith {clause? : Option (Rule (List TypeExpr))}
    (h : ∀ clause ∈ clause?, clause.IsBlind) : (typeWith clause?).IsBlind := by
  intro g tokens
  simp only [typeWith, optional_moved, fst_movedBehind, snd_movedBehind, Option.bind_eq_bind,
    Option.pure_def, isBlind_qualifiedName g]
  refine bind_movedBehind (fun name rest => ?_) _
  simp only [templateArgs_moved h]
  refine bind_movedBehind (fun args rest => ?_) _
  simp

/-- The rule for types looks at no place, however deep clauses may nest. -/
lemma isBlind_typeExpr (depth : Nat) : (typeExpr depth).IsBlind := by
  induction depth with
  | zero => exact isBlind_typeWith (by simp)
  | succ depth ih => exact isBlind_typeWith (by simpa using isBlind_templateClause ih)

/-! ### Functions -/

@[simp] lemma paramName_moved (tokens : List Token) :
    paramName (tokens.map (Token.moved g)) = movedBehind g (paramName tokens) := by
  cases tokens with
  | nil => rfl
  | cons token rest =>
    by_cases h : token.kind = .identifier <;> simp [paramName, h]

/-- The rule for parameters looks at no place. -/
lemma isBlind_param : param.IsBlind := by
  intro g tokens
  simp only [param, isBlind_typeExpr templateDepth g, Option.bind_eq_bind, Option.pure_def]
  refine bind_movedBehind (fun type rest => ?_) _
  simp

lemma paramsUntilClose_moved (tokens : List Token) :
    paramsUntilClose (tokens.map (Token.moved g)) =
      (paramsUntilClose tokens).map (movedBehind g) := by
  fun_induction paramsUntilClose tokens with
  | case1 tokens rest hclose => simp [paramsUntilClose_eq, hclose]
  | case2 tokens hclose hparam =>
    rw [paramsUntilClose_eq, expect_moved, hclose, isBlind_param, hparam]
    rfl
  | case3 tokens hclose first rest hparam rest' hcomma ih =>
    rw [paramsUntilClose_eq, expect_moved, hclose, isBlind_param, hparam]
    simp [hcomma, ih, Function.comp_def]
  | case4 tokens hclose first rest hparam hcomma =>
    rw [paramsUntilClose_eq, expect_moved, hclose, isBlind_param, hparam]
    simp [hcomma, Function.comp_def]

/-- The rule for parameter lists looks at no place. -/
lemma isBlind_paramList : paramList.IsBlind := by
  intro g tokens
  simp only [paramList, expect_moved]
  exact bind_moved paramsUntilClose_moved _

@[simp] lemma offset?_moved (token : Token) : offset? (token.moved g) = offset? token := rfl

@[simp] lemma addressPairs_moved (tokens : List Token) :
    addressPairs (tokens.map (Token.moved g)) = movedBehind g (addressPairs tokens) := by
  fun_induction addressPairs tokens with
  | case1 tag number rest offset hkind hoffset pairs last heq ih =>
    rw [heq] at ih
    simp [addressPairs, hkind, hoffset, ih]
  | case2 tag number rest h =>
    rw [List.map_cons, List.map_cons, addressPairs]
    split
    · next hkind hoffset => exact absurd hoffset (h _ hkind)
    · rfl
  | case3 rest hshort =>
    rcases rest with _ | ⟨tag, _ | ⟨number, rest⟩⟩
    · simp [addressPairs]
    · simp [addressPairs]
    · exact absurd rfl (hshort tag number rest)

/-- The rule for address clauses looks at no place. -/
lemma isBlind_addressClause : addressClause.IsBlind := by
  intro g tokens
  simp only [addressClause, expect_moved, Option.bind_eq_bind, Option.pure_def]
  refine bind_moved (fun rest => ?_) _
  rw [addressPairs_moved]
  rcases addressPairs rest with ⟨_ | ⟨pair, pairs⟩, last⟩ <;> rfl

@[simp] lemma skipBlock_moved (depth : Nat) (tokens : List Token) :
    skipBlock depth (tokens.map (Token.moved g)) =
      (skipBlock depth tokens).map (Token.moved g) := by
  fun_induction skipBlock depth tokens with
  | case1 => rfl
  | case2 depth token rest hend => simp [skipBlock, hend]
  | case3 depth token rest hend hopen ih => simp [skipBlock, hopen, ih]
  | case4 depth token rest hend hopen hclose hdepth => simp [skipBlock, hclose, hdepth]
  | case5 depth token rest hend hopen hclose hdepth ih => simp [skipBlock, hclose, hdepth, ih]
  | case6 depth token rest hend hopen hclose ih => simp [skipBlock, hend, hopen, hclose, ih]

@[simp] lemma skipBody_moved (tokens : List Token) :
    skipBody (tokens.map (Token.moved g)) = (skipBody tokens).map (Token.moved g) := by
  simp only [skipBody, headKind_moved, skipBlock_moved]
  split <;> rfl

@[simp] lemma dispatch_moved (tokens : List Token) :
    dispatch (tokens.map (Token.moved g)) = movedBehind g (dispatch tokens) := by
  cases tokens with
  | nil => rfl
  | cons token rest =>
    simp only [List.map_cons, dispatch, Token.kind_moved]
    cases dispatchOf? token.kind <;> rfl

lemma headingTyped_moved (tokens : List Token) :
    heading.typed (tokens.map (Token.moved g)) = (heading.typed tokens).map (movedBehind g) := by
  simp only [heading.typed, isBlind_typeExpr templateDepth g, Option.bind_eq_bind,
    Option.pure_def]
  refine bind_movedBehind (fun type rest => ?_) _
  simp only [paramName_moved]
  rcases paramName rest with ⟨_ | name, rest⟩ <;> rfl

lemma heading_moved (tokens : List Token) :
    heading (tokens.map (Token.moved g)) = (heading tokens).map (movedBehind g) := by
  rcases tokens with _ | ⟨tilde, _ | ⟨name, rest⟩⟩
  · rfl
  · exact headingTyped_moved [tilde]
  · by_cases h : tilde.kind = .tilde ∧ name.kind = .identifier
    · simp [heading, h]
    · simpa [heading, h] using headingTyped_moved (tilde :: name :: rest)

@[simp] lemma addresses_moved (tokens : List Token) :
    addresses (tokens.map (Token.moved g)) = movedBehind g (addresses tokens) := by
  rw [addresses, addresses, isBlind_addressClause]
  cases addressClause.parse tokens <;> rfl

/-- The rule for functions looks at no place. -/
lemma isBlind_function : function.IsBlind := by
  intro g tokens
  simp only [function, dispatch_moved, fst_movedBehind, snd_movedBehind, heading_moved,
    Option.bind_eq_bind, Option.pure_def]
  refine bind_movedBehind (fun heading rest => ?_) _
  simp only [isBlind_paramList g]
  refine bind_movedBehind (fun params rest => ?_) _
  simp

/-! ### Classes -/

lemma linkedIn_moved (inLink : Bool) (platforms : List String) (tokens : List Token) :
    linkedIn inLink platforms (tokens.map (Token.moved g)) =
      (linkedIn inLink platforms tokens).map (movedBehind g) := by
  fun_induction linkedIn inLink platforms tokens with
  | case1 inLink platforms => simp [linkedIn]
  | case2 platforms token rest hclose ih =>
    rw [List.map_cons, linkedIn_inside, ← ih]
    simp [hclose]
  | case3 platforms token rest hclose hname ih =>
    rw [List.map_cons, linkedIn_inside, ← ih]
    simp [hname]
  | case4 platforms token rest hclose hname ih =>
    rw [List.map_cons, linkedIn_inside, ← ih]
    simp [hclose, hname]
  | case5 inLink platforms token hout => simp_all [linkedIn]
  | case6 inLink platforms token hout next rest hclose => simp_all [linkedIn]
  | case7 inLink platforms token hout next rest hclose hlink ih => simp_all [linkedIn]
  | case8 inLink platforms token hout next rest hclose hlink ih =>
    rw [Bool.not_eq_true] at hout
    subst hout
    rw [List.map_cons] at ih
    simp only [List.map_cons, linkedIn, Token.kind_moved, Token.text_moved, if_neg hclose,
      if_neg hlink, ih]
    rfl

/-- The rule for attribute blocks looks at no place. -/
lemma isBlind_linkAttribute : linkAttribute.IsBlind := by
  intro g tokens
  simp only [linkAttribute, expect_moved, Option.bind_eq_bind]
  refine bind_moved (fun rest => ?_) _
  simp only [expect_moved]
  exact bind_moved (fun rest => linkedIn_moved false [] rest) _

@[simp] lemma skipBases_moved (tokens : List Token) :
    skipBases (tokens.map (Token.moved g)) = (skipBases tokens).map (Token.moved g) := by
  rw [skipBases, skipBases, expect_moved]
  cases expect .colon tokens with
  | none => rfl
  | some rest =>
    simp only [Option.map_some, List.dropWhile_map]
    rfl

/-- The rule for class headers looks at no place. -/
lemma isBlind_classHeader : classHeader.IsBlind := by
  intro g tokens
  simp only [classHeader, expect_moved, Option.bind_eq_bind, Option.pure_def]
  refine bind_moved (fun rest => ?_) _
  rw [isBlind_qualifiedName]
  refine bind_movedBehind (fun name rest => ?_) _
  simp only [skipBases_moved, expect_moved]
  exact bind_moved (fun rest => rfl) _

/-- A class header starts with the word for it. -/
lemma kind_of_classHeader {token : Token} {rest : List Token}
    (h : classHeader.parse (token :: rest) ≠ none) : token.kind = .classWord := by
  by_contra hkind
  exact h (by simp [classHeader, expect, hkind])

end Grammar

end BindingSync.Binding
