import Mathlib.Data.List.Infix
import BindingSync.Proofs.Binding.Blocks
import BindingSync.Proofs.Binding.FunctionGrammar

/-!
# Inline bodies

A function ends at a semicolon, or a block in braces follows it.  What stands in the block does not
matter, though it may look like functions, address clauses, attributes or classes: the class is the
one that is read with a semicolon in place of the block (`exists_declares_of_inlines`).  This is said
of class blocks, wherever a scan comes to one.  An attribute that is left open above a block would
look for its end in the bodies as well.

What the rule for functions does in front of a signature does not depend on anything behind it: it
takes this signature, or it goes on in a block that was opened before, or the scan has still to come
to the signature (`passes_front`).  So the induction is on the tokens in front of that, and the scan
need not come to it at all.
-/

namespace BindingSync.Binding

/-- The kinds of tokens that are in no signature, but for the parenthesis at its end. -/
def foreignKinds : List TokenKind :=
  [.number, .closeParen, .openBrace, .closeBrace, .eof]

/-- The token may stand in a signature in front of its end. -/
def Token.IsPlain (token : Token) : Prop :=
  token.kind ∉ foreignKinds

namespace Grammar

/-! ### The tokens of a signature -/

section Plain

variable {tokens others : List Token}

/-- All of the tokens are plain. -/
def ArePlain (tokens : List Token) : Prop :=
  ∀ token ∈ tokens, token.IsPlain

@[simp] lemma arePlain_nil : ArePlain [] := by
  simp [ArePlain]

@[simp] lemma arePlain_cons {token : Token} :
    ArePlain (token :: tokens) ↔ token.IsPlain ∧ ArePlain tokens :=
  List.forall_mem_cons

@[simp] lemma arePlain_append :
    ArePlain (tokens ++ others) ↔ ArePlain tokens ∧ ArePlain others :=
  List.forall_mem_append

lemma IsOptional.arePlain {kind : TokenKind} {present : Bool}
    (h : IsOptional kind tokens present) (hkind : kind ∉ foreignKinds) : ArePlain tokens := by
  cases h with
  | absent => exact arePlain_nil
  | present hpresent => exact arePlain_cons.2 ⟨by rwa [Token.IsPlain, hpresent], arePlain_nil⟩

lemma IsRun.arePlain {kind : TokenKind} {count : Nat} (h : IsRun kind tokens count)
    (hkind : kind ∉ foreignKinds) : ArePlain tokens := by
  intro token htoken
  rwa [Token.IsPlain, h.kind_eq token htoken]

lemma IsListed.arePlain {α : Type} {IsItem : List Token → α → Prop} {values : List α}
    (h : IsListed IsItem tokens values)
    (hitem : ∀ {part value}, IsItem part value → ArePlain part) : ArePlain tokens := by
  induction h with
  | last hlast => exact hitem hlast
  | cons hfirst hmark _ ih => simp [hitem hfirst, hmark, ih, Token.IsPlain, foreignKinds]

lemma IsScoped.arePlain {names : List String} (h : IsScoped tokens names) : ArePlain tokens := by
  induction h with
  | nil => exact arePlain_nil
  | cons hmark hname _ ih => simp [hmark, hname, ih, Token.IsPlain, foreignKinds]

lemma IsClause.arePlain {IsArg : List Token → TypeExpr → Prop} {args : List TypeExpr}
    (h : IsClause IsArg tokens args)
    (harg : ∀ {part arg}, IsArg part arg → ArePlain part) : ArePlain tokens := by
  cases h with
  | absent => exact arePlain_nil
  | present hleft hinner hright =>
    simp [hleft, hright, hinner.arePlain harg, Token.IsPlain, foreignKinds]

lemma IsTypeOver.arePlain {IsArg : List Token → TypeExpr → Prop} {type : TypeExpr}
    (h : IsTypeOver IsArg tokens type)
    (harg : ∀ {part arg}, IsArg part arg → ArePlain part) : ArePlain tokens := by
  obtain ⟨hleading, ⟨hfirst, hscoped⟩, hclause, htrailing, hstars, hampersands⟩ := h
  simp [hleading.arePlain, hfirst, hscoped.arePlain, hclause.arePlain harg, htrailing.arePlain,
    hstars.arePlain, hampersands.arePlain, Token.IsPlain, foreignKinds]

/-- The tokens of a type are plain, however deep its clauses nest. -/
lemma IsType.arePlain {depth : Nat} {type : TypeExpr} (h : IsType depth tokens type) :
    ArePlain tokens := by
  induction depth generalizing tokens type with
  | zero => exact IsTypeOver.arePlain h False.elim
  | succ depth ih => exact IsTypeOver.arePlain h ih

lemma IsParam.arePlain {param : ParamDecl} (h : IsParam tokens param) : ArePlain tokens := by
  cases h with
  | unnamed htype => exact htype.arePlain
  | named htype hname => simp [htype.arePlain, hname, Token.IsPlain, foreignKinds]

lemma IsParams.arePlain {params : List ParamDecl} (h : IsParams tokens params) :
    ArePlain tokens := by
  cases h with
  | none => exact arePlain_nil
  | listed hlisted hcomma =>
    exact arePlain_append.2 ⟨hlisted.arePlain IsParam.arePlain, hcomma.arePlain (by decide)⟩

lemma IsHeading.arePlain {value : Heading} (h : IsHeading tokens value) : ArePlain tokens := by
  cases h with
  | destructor htilde hname => simp [htilde, hname, Token.IsPlain, foreignKinds]
  | typed htype hname => simp [htype.arePlain, hname, Token.IsPlain, foreignKinds]

/-- The kinds of the tokens that a function can start with. -/
def firstKinds : List TokenKind :=
  [.inlineWord, .virtualWord, .staticWord, .callbackWord, .tilde, .constWord, .identifier]

/-- What a function can start with is plain. -/
lemma isPlain_of_mem_firstKinds {token : Token} (h : token.kind ∈ firstKinds) :
    token.IsPlain := by
  rw [Token.IsPlain, foreignKinds]
  revert h
  cases token.kind <;> decide

/-- A keyword for a dispatch can stand first. -/
lemma mem_firstKinds_of_dispatchOf? {kind : TokenKind} {dispatch : Dispatch}
    (h : dispatchOf? kind = some dispatch) : kind ∈ firstKinds := by
  cases kind <;> simp_all [dispatchOf?, firstKinds]

/-- A signature is plain but for its closing parenthesis, and it is not that alone. -/
lemma IsSignature.exists_ends {decl : FunctionDecl} (h : IsSignature tokens decl) :
    ∃ first middle right, tokens = first :: middle ++ [right] ∧ first.kind ∈ firstKinds ∧
      ArePlain (first :: middle) ∧ right.kind = .closeParen := by
  obtain @⟨word, front, inner, left, right, value, head, params, hdispatch, hheading, hleft,
    hparams, hright⟩ := h
  obtain ⟨first, more, rfl, hfirst⟩ := hheading.exists_head
  have hinside : ArePlain (first :: more ++ left :: inner) := by
    simpa [hleft, hparams.arePlain, Token.IsPlain, foreignKinds] using hheading.arePlain
  cases hdispatch with
  | absent =>
    refine ⟨first, more ++ left :: inner, right, by simp, ?_, hinside, hright⟩
    obtain hkind | hkind | hkind := hfirst <;> simp [hkind, firstKinds]
  | @word token _ hword =>
    have hkind := mem_firstKinds_of_dispatchOf? hword
    exact ⟨token, first :: more ++ left :: inner, right, by simp, hkind,
      arePlain_cons.2 ⟨isPlain_of_mem_firstKinds hkind, hinside⟩, hright⟩

/-- A signature ends at its first closing parenthesis. -/
lemma IsSignature.eq_nil_of_closeParen {decl : FunctionDecl} {right : Token}
    (h : IsSignature (tokens ++ right :: others) decl) (hright : right.kind = .closeParen) :
    others = [] := by
  obtain ⟨first, middle, last, heq, -, hplain, -⟩ := h.exists_ends
  rcases List.eq_nil_or_concat others with rfl | ⟨others, other, rfl⟩
  · rfl
  · rw [List.concat_eq_append, ← List.cons_append, ← List.append_assoc] at heq
    have hinit : tokens ++ right :: others = first :: middle := List.append_inj_left' heq rfl
    have hmem : right ∈ first :: middle := by
      rw [← hinit]
      simp
    exact absurd (hplain right hmem) (by simp [Token.IsPlain, foreignKinds, hright])

/-- The last token of a signature is a closing parenthesis. -/
lemma IsSignature.exists_closeParen {decl : FunctionDecl} (h : IsSignature (tokens ++ others) decl)
    (hne : others ≠ []) :
    ∃ inner right, others = inner ++ [right] ∧ right.kind = .closeParen := by
  obtain ⟨first, middle, right, heq, -, -, hright⟩ := h.exists_ends
  obtain ⟨inner, last, rfl⟩ := (List.eq_nil_or_concat others).resolve_left hne
  rw [List.concat_eq_append, ← List.append_assoc] at heq
  obtain rfl := List.singleton_inj.1 (List.append_inj_right' heq rfl)
  exact ⟨inner, last, List.concat_eq_append, hright⟩

/-- Two signatures of which one starts before the other one and does not end there are the same from
the start of the other one on: both end at the first closing parenthesis behind that. -/
lemma IsSignature.eq_of_append_eq {front more rest tail : List Token} {decl found : FunctionDecl}
    (h : IsSignature tokens decl) (hfound : IsSignature (front ++ more) found) (hne : more ≠ [])
    (heq : tokens ++ tail = more ++ rest) : more = tokens := by
  obtain ⟨last, rfl, -⟩ | ⟨last, rfl, -⟩ := List.append_eq_append_iff.1 heq
  · have hself : IsSignature ([] ++ tokens) decl := h
    obtain ⟨inner, right, rfl, hright⟩ := hself.exists_closeParen (by
      obtain ⟨first, middle, right, rfl, -⟩ := h.exists_ends
      simp)
    rw [List.append_assoc, ← List.append_assoc, List.singleton_append] at hfound
    rw [hfound.eq_nil_of_closeParen hright, List.append_nil]
  · obtain ⟨inner, right, rfl, hright⟩ := hfound.exists_closeParen hne
    rw [List.append_assoc, List.singleton_append] at h
    rw [h.eq_nil_of_closeParen hright, List.append_nil]

/-- There are neither numbers nor braces in a signature, and the text does not end in it. -/
lemma IsSignature.kind_of_mem {decl : FunctionDecl} (h : IsSignature tokens decl) :
    ∀ token ∈ tokens, token.kind ∉ [TokenKind.number, .openBrace, .closeBrace, .eof] := by
  obtain ⟨first, middle, right, rfl, -, hplain, hright⟩ := h.exists_ends
  intro token htoken
  rcases List.mem_append.1 htoken with hmem | hmem
  · have hkind := hplain token hmem
    rw [Token.IsPlain, foreignKinds] at hkind
    revert hkind
    cases token.kind <;> decide
  · obtain rfl := List.mem_singleton.1 hmem
    simp [hright]

end Plain

/-! ### Where a function is found -/

section Fronts

variable {signature front : List Token} {decl : FunctionDecl}

/-- Neither an address clause nor a body goes on with the tokens, and none starts with them. -/
structure IsApart (tokens : List Token) : Prop where
  head : ∀ token ∈ tokens.head?, token.kind ∉ [TokenKind.comma, .equals, .number, .openBrace]
  pair : ¬PairFollows tokens

/-- A signature is apart, whatever stands behind it. -/
lemma IsSignature.isApart (h : IsSignature signature decl) (tail : List Token) :
    IsApart (signature ++ tail) := by
  obtain ⟨first, middle, right, heq, hfirst, -, -⟩ := h.exists_ends
  refine ⟨?_, ?_⟩
  · rw [heq]
    intro token htoken
    obtain rfl := Option.some.inj htoken
    revert hfirst
    cases first.kind <;> decide
  · obtain ⟨second, more, hsecond⟩ : ∃ second more, middle ++ [right] = second :: more :=
      List.exists_cons_of_ne_nil (by simp)
    rw [List.cons_append, hsecond] at heq
    have hnumber := h.kind_of_mem second (by simp [heq])
    rw [heq]
    rintro ⟨-, offset, hoffset⟩
    simp [hoffset.kind_eq] at hnumber

/-- The first tokens are what is optional, or nothing is, with other tokens behind them. -/
lemma optional_append {kind : TokenKind} {rest : List Token}
    (hrest : ∀ token ∈ rest.head?, token.kind ≠ kind) (front : List Token) :
    (optional kind (front ++ rest)).2 = (optional kind front).2 ++ rest := by
  cases front with
  | nil => rw [List.nil_append, optional_of_head hrest]; rfl
  | cons token front =>
    by_cases hkind : token.kind = kind <;> simp [optional, hkind]

/-- No pair reaches into tokens that are apart. -/
lemma IsApart.addressPairs_append {rest : List Token} (h : IsApart rest) (front : List Token) :
    addressPairs (front ++ rest) = ((addressPairs front).1, (addressPairs front).2 ++ rest) := by
  have hcomma : ∀ token ∈ rest.head?, token.kind ≠ .comma := by
    rintro token htoken hkind
    simpa [hkind] using h.head token htoken
  fun_induction addressPairs front with
  | case1 tag number front offset hoffset hkind pairs last heq ih =>
    rw [List.cons_append, List.cons_append, addressPairs_cons hkind hoffset,
      optional_append hcomma, ih, heq]
  | case2 tag number front hnone =>
    refine addressPairs_of_not_pairFollows ?_
    rintro ⟨hkind, offset, hoffset⟩
    exact hnone offset hkind (offset?_eq_some_iff.2 hoffset)
  | case3 front hshort =>
    refine addressPairs_of_not_pairFollows ?_
    rcases front with _ | ⟨tag, _ | ⟨number, front⟩⟩
    · exact h.pair
    · cases rest with
      | nil => exact id
      | cons number rest =>
        rintro ⟨-, offset, hoffset⟩
        simpa [hoffset.kind_eq] using h.head number rfl
    · exact (hshort tag number front rfl).elim

/-- No address clause reaches into tokens that are apart. -/
lemma IsApart.addresses_append {rest : List Token} (h : IsApart rest) (front : List Token) :
    addresses (front ++ rest) = ((addresses front).1, (addresses front).2 ++ rest) := by
  cases front with
  | nil =>
    have hnone : expect .equals rest = none := by
      cases rest with
      | nil => rfl
      | cons token rest =>
        refine expect_of_ne (fun hkind => ?_) rest
        simpa [hkind] using h.head token rfl
    have hnothing : ∀ tokens, expect .equals tokens = none → addresses tokens = ([], tokens) := by
      intro tokens htokens
      simp [addresses, addressClause, htokens]
    rw [List.nil_append, hnothing rest hnone, hnothing [] rfl, List.nil_append]
  | cons equals front =>
    by_cases hkind : equals.kind = .equals
    · have hread := h.addressPairs_append front
      rcases hpairs : addressPairs front with ⟨_ | ⟨first, others⟩, last⟩
      · rw [hpairs] at hread
        simp [addresses, addressClause, expect, hkind, hread, hpairs]
      · rw [hpairs] at hread
        simp [addresses, addressClause, expect, hkind, hread, hpairs]
    · simp [addresses, addressClause, expect, hkind]

/-- A block that is open ends within some tokens, or it goes on behind them. -/
lemma skipBlock_front {depth : Nat} (hpos : 0 < depth) (front : List Token) :
    (∃ back, back.length ≤ front.length ∧
      ∀ rest, skipBlock depth (front ++ rest) = back ++ rest) ∨
    ∃ depth', 0 < depth' ∧ ∀ rest, skipBlock depth (front ++ rest) = skipBlock depth' rest := by
  induction front generalizing depth with
  | nil => exact .inr ⟨depth, hpos, fun rest => rfl⟩
  | cons token front ih =>
    cases blockStep hpos token with
    | ends hend =>
      exact .inl ⟨token :: front, Nat.le_refl _, fun rest => by simp [skipBlock, hend]⟩
    | closes hclose hdepth =>
      exact .inl ⟨front, Nat.le_succ _, fun rest => by simp [skipBlock, hclose, hdepth]⟩
    | goesOn depth' hpos' _ _ hskip =>
      simp only [List.cons_append, hskip]
      obtain ⟨back, hback, heq⟩ | hopen := ih hpos'
      · exact .inl ⟨back, Nat.le_succ_of_le hback, heq⟩
      · exact .inr hopen

/-- A body ends within some tokens, or it goes on behind them. -/
lemma skipBody_front (front : List Token) :
    (∃ back, back.length ≤ front.length ∧
      ∀ rest, IsApart rest → skipBody (front ++ rest) = back ++ rest) ∨
    ∃ depth, 0 < depth ∧
      ∀ rest, IsApart rest → skipBody (front ++ rest) = skipBlock depth rest := by
  cases front with
  | nil =>
    refine .inl ⟨[], Nat.le_refl _, fun rest hrest => ?_⟩
    cases rest with
    | nil => rfl
    | cons token rest =>
      have hkind := hrest.head token rfl
      simp only [List.mem_cons, not_or] at hkind
      simp [skipBody, hkind]
  | cons left front =>
    by_cases hleft : left.kind = .openBrace
    · have hskip : ∀ rest, skipBody (left :: front ++ rest) = skipBlock 1 (front ++ rest) := by
        simp [skipBody, skipBlock, hleft]
      simp only [hskip]
      obtain ⟨back, hback, heq⟩ | ⟨depth, hpos, heq⟩ := skipBlock_front Nat.one_pos front
      · exact .inl ⟨back, Nat.le_succ_of_le hback, fun rest _ => heq rest⟩
      · exact .inr ⟨depth, hpos, fun rest _ => heq rest⟩
    · exact .inl ⟨left :: front, Nat.le_refl _, fun rest _ => by simp [skipBody, hleft]⟩

/-- In front of a signature another one ends, or this one does with all that is in front of it, or
none starts there; which of them it is does not depend on what stands behind. -/
lemma readSignature_front (h : IsSignature signature decl) (front : List Token) :
    (∀ tail, readSignature (front ++ (signature ++ tail)) = none) ∨
    (∃ found back, back.length < front.length ∧
      ∀ tail, readSignature (front ++ (signature ++ tail)) =
        some (found, back ++ (signature ++ tail))) ∨
    ∃ found, ∀ tail, readSignature (front ++ (signature ++ tail)) = some (found, tail) := by
  by_cases hwithin : ∃ taken back found, front = taken ++ back ∧ IsSignature taken found
  · obtain ⟨taken, back, found, rfl, htaken⟩ := hwithin
    refine .inr (.inl ⟨found, back, ?_, fun tail => ?_⟩)
    · obtain ⟨first, middle, right, rfl, -⟩ := htaken.exists_ends
      simp only [List.length_append, List.length_cons]
      omega
    · exact readSignature_eq_some_iff.2 ⟨taken, List.append_assoc _ _ _, htaken⟩
  by_cases hwhole : ∃ found, IsSignature (front ++ signature) found
  · obtain ⟨found, hfound⟩ := hwhole
    refine .inr (.inr ⟨found, fun tail => ?_⟩)
    exact readSignature_eq_some_iff.2 ⟨_, (List.append_assoc _ _ _).symm, hfound⟩
  refine .inl fun tail => readSignature_eq_none_iff.2 fun taken rest found heq htaken => ?_
  obtain ⟨more, rfl, hmore⟩ | ⟨back, rfl, -⟩ := List.append_eq_append_iff.1 heq
  · by_cases hne : more = []
    · subst hne
      exact hwithin ⟨front, [], found, (List.append_nil _).symm, by simpa using htaken⟩
    · exact hwhole ⟨found, h.eq_of_append_eq htaken hne hmore ▸ htaken⟩
  · exact hwithin ⟨taken, back, found, rfl, htaken⟩

end Fronts

/-! ### Blocks in braces -/

section Blocks

variable {tokens rest : List Token}

/-- As many braces are closed as are opened, each of them behind the one that it closes, and the
text does not end in between. -/
structure IsBalanced (tokens : List Token) : Prop where
  inside : ∀ token ∈ tokens, token.kind ≠ .eof
  opened : ∀ front, front <+: tokens →
    countKind .closeBrace front ≤ countKind .openBrace front
  ends : countKind .closeBrace tokens = countKind .openBrace tokens

/-- A balanced block whose last token closes the brace that its first token opens, and none before
it.  The block is inside a class body, so that none of its braces ends this. -/
structure IsInlineBody (block : List Token) : Prop extends IsBalanced block where
  starts : ∃ left ∈ block.head?, left.kind = .openBrace
  isOpen : ∀ front, front <+: block → front ≠ [] → front ≠ block →
    countKind .closeBrace front < countKind .openBrace front
  indented : ∀ token ∈ block, ¬token.EndsBody

instance (block : List Token) : Decidable (IsInlineBody block) :=
  decidable_of_iff ((∀ token ∈ block, token.kind ≠ .eof ∧ ¬token.EndsBody) ∧
      (∃ left ∈ block.head?, left.kind = .openBrace) ∧
      countKind .closeBrace block = countKind .openBrace block ∧
      ∀ front ∈ block.inits, countKind .closeBrace front ≤ countKind .openBrace front ∧
        (front ≠ [] → front ≠ block →
          countKind .closeBrace front < countKind .openBrace front))
    ⟨fun ⟨htokens, hstarts, hends, hfronts⟩ =>
      { inside := fun token htoken => (htokens token htoken).1
        opened := fun front hfront => (hfronts front ((List.mem_inits _ _).2 hfront)).1
        ends := hends
        starts := hstarts
        isOpen := fun front hfront => (hfronts front ((List.mem_inits _ _).2 hfront)).2
        indented := fun token htoken => (htokens token htoken).2 },
    fun h => ⟨fun token htoken => ⟨h.inside token htoken, h.indented token htoken⟩, h.starts,
      h.ends, fun front hfront => ⟨h.opened front ((List.mem_inits _ _).1 hfront),
        h.isOpen front ((List.mem_inits _ _).1 hfront)⟩⟩⟩

/-- As long as a brace stays open, the block goes on. -/
lemma skipBlock_append {depth : Nat} (hinside : ∀ token ∈ tokens, token.kind ≠ .eof)
    (hopen : ∀ front, front <+: tokens →
      countKind .closeBrace front < depth + countKind .openBrace front) :
    skipBlock depth (tokens ++ rest) =
      skipBlock (depth + countKind .openBrace tokens - countKind .closeBrace tokens) rest := by
  induction tokens generalizing depth with
  | nil => rfl
  | cons token tokens ih =>
    obtain ⟨hinside, hothers⟩ := List.forall_mem_cons.1 hinside
    have hpos : 0 < depth := by simpa [countKind] using hopen [] List.nil_prefix
    cases blockStep hpos token with
    | ends hend => exact absurd hend hinside
    | closes hclose hdepth =>
      have hfirst := hopen [token] (List.cons_prefix_cons.2 ⟨rfl, List.nil_prefix⟩)
      simp [countKind, hclose, hdepth] at hfirst
    | goesOn depth' _ _ hdepth hskip =>
      have hmore : ∀ front, front <+: tokens →
          countKind .closeBrace front < depth' + countKind .openBrace front := by
        intro front hfront
        have hless := hopen (token :: front) (List.cons_prefix_cons.2 ⟨rfl, hfront⟩)
        rw [countKind_cons, countKind_cons] at hless
        omega
      rw [List.cons_append, hskip, ih hothers hmore, countKind_cons, countKind_cons]
      congr 1
      omega

/-- A balanced block in an open one is passed over. -/
lemma IsBalanced.skipBlock_eq {depth : Nat} (h : IsBalanced tokens) (hpos : 0 < depth) :
    skipBlock depth (tokens ++ rest) = skipBlock depth rest := by
  have hends := h.ends
  rw [skipBlock_append h.inside fun front hfront => by
    have hopened := h.opened front hfront
    omega]
  congr 1
  omega

/-- Where there are no braces, they are balanced. -/
lemma isBalanced_of_braceless
    (h : ∀ token ∈ tokens, token.kind ∉ [TokenKind.openBrace, .closeBrace, .eof]) :
    IsBalanced tokens := by
  have hnone : ∀ kind, kind ∈ [TokenKind.openBrace, .closeBrace, .eof] →
      ∀ front, front <+: tokens → countKind kind front = 0 := by
    intro kind hkind front hfront
    refine List.countP_eq_zero.2 fun token htoken => ?_
    simp only [decide_eq_true_eq]
    rintro rfl
    exact h token (hfront.subset htoken) hkind
  refine ⟨?_, fun front hfront => ?_, ?_⟩
  · rintro token htoken hkind
    exact h token htoken (by simp [hkind])
  · rw [hnone .closeBrace (by simp) front hfront]
    exact Nat.zero_le _
  · rw [hnone .closeBrace (by simp) tokens List.prefix_rfl,
      hnone .openBrace (by simp) tokens List.prefix_rfl]

/-- Between its first token and its last one an inline body is balanced. -/
lemma IsInlineBody.exists_ends (h : IsInlineBody tokens) :
    ∃ left inner right, tokens = left :: inner ++ [right] ∧ left.kind = .openBrace ∧
      right.kind = .closeBrace ∧ IsBalanced inner := by
  obtain ⟨left, hhead, hleft⟩ := h.starts
  obtain ⟨more, rfl⟩ := List.head?_eq_some_iff.1 hhead
  have hends := h.ends
  obtain ⟨inner, right, rfl⟩ : ∃ inner right, more = inner ++ [right] := by
    rcases List.eq_nil_or_concat more with rfl | ⟨inner, right, rfl⟩
    · simp [countKind, hleft] at hends
    · exact ⟨inner, right, List.concat_eq_append⟩
  have hopened : ∀ front, front <+: inner →
      countKind .closeBrace front ≤ countKind .openBrace front := by
    intro front hfront
    have hprefix : left :: front <+: left :: (inner ++ [right]) :=
      List.cons_prefix_cons.2 ⟨rfl, hfront.trans (List.prefix_append _ _)⟩
    have hne : left :: front ≠ left :: (inner ++ [right]) := by
      intro heq
      have hlength := hfront.length_le
      rw [(List.cons.inj heq).2, List.length_append, List.length_singleton] at hlength
      omega
    have hless := h.isOpen (left :: front) hprefix (by simp) hne
    simpa [countKind_cons, hleft, Nat.lt_succ_iff] using hless
  have hcounts : countKind .closeBrace inner + (if right.kind = .closeBrace then 1 else 0) =
      countKind .openBrace inner + (if right.kind = .openBrace then 1 else 0) + 1 := by
    simpa [countKind, hleft, List.countP_cons] using hends
  have hinner := hopened inner List.prefix_rfl
  -- One brace is still open in front of the last token, so this closes it.
  have hright : right.kind = .closeBrace := by
    by_contra hother
    rw [if_neg hother] at hcounts
    omega
  rw [hright, if_pos rfl, if_neg (by decide)] at hcounts
  refine ⟨left, inner, right, rfl, hleft, hright, fun token htoken => ?_, hopened, by omega⟩
  exact h.inside token (by simp [htoken])

/-- An inline body is passed over, and nothing behind it. -/
lemma IsInlineBody.skipBody_eq (h : IsInlineBody tokens) : skipBody (tokens ++ rest) = rest := by
  obtain ⟨left, inner, right, rfl, hleft, hright, hinner⟩ := h.exists_ends
  have hskip : skipBody (left :: inner ++ [right] ++ rest) =
      skipBlock 1 (inner ++ right :: rest) := by simp [skipBody, skipBlock, hleft]
  rw [hskip, hinner.skipBlock_eq Nat.one_pos]
  simp [skipBlock, hright]

end Blocks

/-! ### Functions with and without a body -/

section Bodies

variable {signature run body back front : List Token} {decl : FunctionDecl} {pairs : AddressClause}
  {semicolon : Token}

/-- There are no braces in a signature. -/
lemma IsSignature.isBalanced (h : IsSignature signature decl) : IsBalanced signature := by
  refine isBalanced_of_braceless fun token htoken hkind => ?_
  exact h.kind_of_mem token htoken (List.mem_cons_of_mem _ hkind)

/-- Pairs have no braces among their tokens. -/
lemma IsPairs.kind_of_mem (h : IsPairs run pairs) :
    ∀ token ∈ run, token.kind ∉ [TokenKind.openBrace, .closeBrace, .eof] := by
  induction h with
  | nil => simp
  | cons htag hoffset hcomma _ ih =>
    simp only [List.forall_mem_cons, List.forall_mem_append]
    refine ⟨by simp [htag], by simp [hoffset.kind_eq], ?_, ih⟩
    cases hcomma with
    | absent => simp
    | present hmark => simp [hmark]

/-- There are no braces in an address clause. -/
lemma IsAddressPart.isBalanced {rest : List Token} (h : IsAddressPart run pairs rest) :
    IsBalanced run := by
  cases h with
  | present hequals hrun =>
    exact isBalanced_of_braceless (List.forall_mem_cons.2 ⟨by simp [hequals], hrun.kind_of_mem⟩)
  | absent => exact isBalanced_of_braceless (by simp)

/-- An address clause may end wherever it does not go on. -/
lemma IsAddressPart.of_head {rest others : List Token} (h : IsAddressPart run pairs rest)
    (hothers : ∀ token ∈ others.head?, token.kind ∉ [TokenKind.identifier, .comma, .equals]) :
    IsAddressPart run pairs others := by
  cases h with
  | present hequals hrun hne =>
    refine .present hequals hrun hne ?_ ?_
    · rcases others with _ | ⟨tag, _ | ⟨number, others⟩⟩
      · exact id
      · exact id
      · rintro ⟨htag, -⟩
        simpa [htag] using hothers tag rfl
    · rintro ⟨⟨next, hnext, hcomma⟩, -⟩
      simpa [hcomma] using hothers next hnext
  | absent =>
    refine .absent fun equals hhead hequals => ?_
    simpa [hequals] using hothers equals hhead

/-- What the rule for functions makes of the tokens in front of a signature and of the signature,
whatever stands behind it. -/
inductive Passes (front signature : List Token) : Prop
  /-- No function starts there. -/
  | absent (h : ∀ tail, function.parse (front ++ (signature ++ tail)) = none)
  /-- A function ends in front of the signature. -/
  | before (found : FunctionDecl) (back : List Token) (hshorter : back.length < front.length)
      (h : ∀ tail, function.parse (front ++ (signature ++ tail)) =
        some (found, back ++ (signature ++ tail)))
  /-- The body of a function goes on behind the signature. -/
  | beyond (found : FunctionDecl) (depth : Nat) (hpos : 0 < depth)
      (h : ∀ tail, function.parse (front ++ (signature ++ tail)) =
        some (found, skipBlock depth tail))
  /-- A function has the signature for its own, with or without the tokens in front. -/
  | signed (found : FunctionDecl)
      (h : ∀ tail, function.parse (front ++ (signature ++ tail)) =
        some ({ found with addresses := (addresses tail).1 }, skipBody (addresses tail).2))

/-- In front of a signature the rule for functions does one of these things. -/
lemma passes_front (h : IsSignature signature decl) (front : List Token) :
    Passes front signature := by
  obtain hnone | ⟨found, behind, hshorter, hread⟩ | ⟨found, hread⟩ := readSignature_front h front
  · exact .absent fun tail => by rw [function_parse, hnone, Option.map_none]
  · have hclause : ∀ tail, addresses (behind ++ (signature ++ tail)) =
        ((addresses behind).1, (addresses behind).2 ++ (signature ++ tail)) :=
      fun tail => (h.isApart tail).addresses_append behind
    have hparse : ∀ tail, function.parse (front ++ (signature ++ tail)) =
        some ({ found with addresses := (addresses behind).1 },
          skipBody ((addresses behind).2 ++ (signature ++ tail))) := by
      intro tail
      rw [function_parse, hread, Option.map_some, hclause]
    have hlength := length_addresses behind
    obtain ⟨back, hback, hskip⟩ | ⟨depth, hpos, hskip⟩ := skipBody_front (addresses behind).2
    · refine .before { found with addresses := (addresses behind).1 } back (by omega)
        fun tail => ?_
      rw [hparse, hskip _ (h.isApart tail)]
    · refine .beyond { found with addresses := (addresses behind).1 } depth hpos fun tail => ?_
      rw [hparse, hskip _ (h.isApart tail), h.isBalanced.skipBlock_eq hpos]
  · exact .signed found fun tail => by rw [function_parse, hread, Option.map_some]

/-- Where two texts go on alike behind a signature, the same functions are found in both of them,
whatever stands in front of the signature: they have to go on alike in a block that is open, and to
give the signature the same addresses, and the same functions must be found behind them.  The
induction is on the tokens in front. -/
lemma scan_front (h : IsSignature signature decl) {tail tail' : List Token}
    (hskip : ∀ depth, 0 < depth → skipBlock depth tail = skipBlock depth tail')
    (haddresses : (addresses tail).1 = (addresses tail').1)
    (hscan : ∀ found, function.scan found (skipBody (addresses tail).2) =
      function.scan found (skipBody (addresses tail').2))
    (front : List Token) (found : List FunctionDecl) :
    function.scan found (front ++ (signature ++ tail)) =
      function.scan found (front ++ (signature ++ tail')) := by
  have hsigned : ∀ front (value : FunctionDecl), (∀ tail,
      function.parse (front ++ (signature ++ tail)) =
        some ({ value with addresses := (addresses tail).1 }, skipBody (addresses tail).2)) →
      ∀ found, function.scan found (front ++ (signature ++ tail)) =
        function.scan found (front ++ (signature ++ tail')) := by
    intro front value hparse found
    rw [Rule.scan_of_parse (hparse tail), Rule.scan_of_parse (hparse tail'), haddresses, hscan]
  induction hlength : front.length using Nat.strong_induction_on generalizing front found with
  | _ length ih =>
    subst hlength
    cases front with
    | nil =>
      refine hsigned [] decl (fun tail => ?_) found
      rw [List.nil_append, function_parse, readSignature_eq_some_iff.2 ⟨signature, rfl, h⟩,
        Option.map_some]
    | cons token front =>
      cases passes_front h (token :: front) with
      | absent hparse =>
        have hnone := hparse tail
        have hnone' := hparse tail'
        rw [List.cons_append] at hnone hnone' ⊢
        rw [List.cons_append, Rule.scan_of_none hnone, Rule.scan_of_none hnone']
        exact ih front.length (Nat.lt_succ_self _) front found rfl
      | before value back hshorter hparse =>
        rw [Rule.scan_of_parse (hparse tail), Rule.scan_of_parse (hparse tail')]
        exact ih back.length hshorter back _ rfl
      | beyond value depth hpos hparse =>
        rw [Rule.scan_of_parse (hparse tail), Rule.scan_of_parse (hparse tail'), hskip depth hpos]
      | signed value hparse => exact hsigned (token :: front) value hparse found

/-- The same functions are found with an inline body in place of a semicolon. -/
lemma scan_inlined (hsignature : IsSignature signature decl)
    (hrun : IsAddressPart run pairs (semicolon :: back)) (hsemicolon : semicolon.kind = .semicolon)
    (hbody : IsInlineBody body) (front : List Token) (found : List FunctionDecl) :
    function.scan found (front ++ (signature ++ (run ++ semicolon :: back))) =
      function.scan found (front ++ (signature ++ (run ++ (body ++ back)))) := by
  have hclause := hrun.addresses_eq
  have hinline : ∀ token ∈ (body ++ back).head?,
      token.kind ∉ [TokenKind.identifier, .comma, .equals] := by
    obtain ⟨left, inner, right, rfl, hleft, -⟩ := hbody.exists_ends
    simp [hleft]
  have hclause' := (hrun.of_head hinline).addresses_eq
  have hbalanced := hrun.isBalanced
  refine scan_front hsignature (fun depth hpos => ?_) ?_ (fun found => ?_) front found
  · rw [hbalanced.skipBlock_eq hpos, hbalanced.skipBlock_eq hpos, hbody.skipBlock_eq hpos]
    simp [skipBlock, hsemicolon]
  · rw [hclause, hclause']
  · have hskip : skipBody (semicolon :: back) = semicolon :: back := by simp [skipBody, hsemicolon]
    rw [hclause, hclause', hskip, hbody.skipBody_eq,
      Rule.scan_of_none (function_of_semicolon hsemicolon back)]

end Bodies

end Grammar

open Grammar

/-! ### Class blocks -/

/-- The tokens of a class block in which a semicolon stands behind the parameters or the address
clause of a function, and those of the block with an inline body in its place.  Apart from that the
tokens are alike: they may stand elsewhere, but closing braces not in column one instead of another
column or the other way round. -/
inductive Inlines : List Token → List Token → Prop
  | intro {link header front signature run body back others : List Token} {semicolon brace : Token}
      {decl : FunctionDecl} {pairs : AddressClause}
      (hlink : link = [] ∨ ∃ linked, linkAttribute.parse link = some (linked, []))
      (hheader : ∃ name, classHeader.parse header = some (name, []))
      (hsignature : IsSignature signature decl)
      (hrun : IsAddressPart run pairs (semicolon :: back))
      (hsemicolon : semicolon.kind = .semicolon)
      (hbody : IsInlineBody body)
      (hinside : ∀ token ∈ front ++ (signature ++ (run ++ semicolon :: back)), ¬token.EndsBody)
      (hbrace : brace.EndsBody)
      (hothers : List.Forall₂ Token.Alike
        (link ++ header ++ (front ++ (signature ++ (run ++ (body ++ back)))) ++ [brace]) others) :
      Inlines (link ++ header ++ (front ++ (signature ++ (run ++ semicolon :: back))) ++ [brace])
        others

/-- The tokens declare a class: a scan that comes to them finds it, whatever was found before, and
goes on behind them.  A text that has no other tokens declares this class alone. -/
structure Declares (tokens : List Token) (cls : ClassDecl) : Prop where
  scan : ∀ found below, classesIn found (tokens ++ below) = classesIn (cls :: found) below
  parse : ∀ source eof, tokenize source = .ok (tokens ++ [eof]) → parse source = .ok [cls]

/-- If a rule that looks at no place takes all of some tokens, it takes all of others that are
alike. -/
lemma Rule.IsBlind.parse_alike {α : Type} {rule : Rule α} (h : rule.IsBlind) {value : α}
    {tokens others : List Token} (halike : List.Forall₂ Token.Alike tokens others)
    (hparse : rule.parse tokens = some (value, [])) : rule.parse others = some (value, []) := by
  have hothers := h bare others
  rw [← map_moved_bare halike, h bare tokens, hparse] at hothers
  obtain ⟨⟨found, rest⟩, hread, heq⟩ := Option.map_eq_some_iff.1 hothers.symm
  rw [movedBehind_mk, movedBehind_mk, List.map_nil, Prod.mk.injEq, List.map_eq_nil_iff] at heq
  rw [hread, heq.1, heq.2]

/-- Tokens that are alike end a class body both or neither. -/
lemma Token.Alike.endsBody_iff {token other : Token} (h : token.Alike other) :
    token.EndsBody ↔ other.EndsBody := by
  rw [Token.EndsBody, Token.EndsBody, ← h.kind]
  exact and_congr_right h.margin

/-- A token among others has one that is alike among the tokens. -/
lemma exists_alike_of_mem {tokens others : List Token}
    (h : List.Forall₂ Token.Alike tokens others) {other : Token} (hmem : other ∈ others) :
    ∃ token ∈ tokens, token.Alike other := by
  induction h with
  | nil => cases hmem
  | @cons token _ _ _ halike _ ih =>
    rcases List.mem_cons.1 hmem with rfl | hmem
    · exact ⟨token, List.mem_cons_self, halike⟩
    · obtain ⟨token, htoken, halike⟩ := ih hmem
      exact ⟨token, List.mem_cons_of_mem _ htoken, halike⟩

/-- Where a list falls into two parts, so does a list that is related to it token by token. -/
lemma exists_append_of_alike {first second others : List Token}
    (h : List.Forall₂ Token.Alike (first ++ second) others) :
    ∃ first' second', others = first' ++ second' ∧ List.Forall₂ Token.Alike first first' ∧
      List.Forall₂ Token.Alike second second' :=
  ⟨_, _, (List.take_append_drop first.length others).symm,
    (List.forall₂_take_append _ _ _ h.flip).flip, (List.forall₂_drop_append _ _ _ h.flip).flip⟩

section Declares

variable {link header head inside : List Token} {brace : Token} {start : BlockStart}

/-- A class block declares the class of its body. -/
lemma declares_block (hstart : ∀ more, blockStart.parse (head ++ more) = some (start, more))
    (hinside : ∀ token ∈ inside, ¬token.EndsBody) (hbrace : brace.EndsBody) :
    Declares (head ++ inside ++ [brace]) (.ofBody start inside) := by
  refine ⟨classesIn_block hstart hinside hbrace, fun source eof htokens => ?_⟩
  have hself := classesIn_block hstart hinside hbrace [] []
  rw [List.append_nil] at hself
  simp only [parse, htokens, List.dropLast_concat, hself]
  simp [classesIn]

/-- Tokens that are alike declare the same class as a class block. -/
lemma declares_alike {others : List Token}
    (hlink : link = [] ∨ ∃ linked, linkAttribute.parse link = some (linked, []))
    (hheader : ∃ name, classHeader.parse header = some (name, []))
    (hstart : ∀ more, blockStart.parse (link ++ header ++ more) = some (start, more))
    (hinside : ∀ token ∈ inside, ¬token.EndsBody) (hbrace : brace.EndsBody)
    (hothers : List.Forall₂ Token.Alike (link ++ header ++ inside ++ [brace]) others) :
    Declares others (.ofBody start inside) := by
  obtain ⟨front, last, rfl, hfront, hlast⟩ := exists_append_of_alike hothers
  obtain ⟨head, inside', rfl, hhead, hinside'⟩ := exists_append_of_alike hfront
  obtain ⟨link', header', rfl, hlink', hheader'⟩ := exists_append_of_alike hhead
  obtain ⟨brace', hbrace', rfl⟩ : ∃ brace', brace.Alike brace' ∧ last = [brace'] := by
    cases hlast with
    | cons halike hnil =>
      cases hnil
      exact ⟨_, halike, rfl⟩
  obtain ⟨name, hname⟩ := hheader
  obtain ⟨start', hstart'⟩ : ∃ start', ∀ more,
      blockStart.parse (link' ++ header' ++ more) = some (start', more) := by
    refine exists_blockStart ?_ (isBlind_classHeader.parse_alike hheader' hname)
    rcases hlink with rfl | ⟨linked, hlinked⟩
    · cases hlink'
      exact .inl rfl
    · exact .inr ⟨linked, isBlind_linkAttribute.parse_alike hlink' hlinked⟩
  have hmoved : start'.moved bare = start.moved bare := by
    have hread := blockStart_moved (g := bare) (link' ++ header' ++ [])
    rw [List.map_append, ← map_moved_bare hhead, ← List.map_append, blockStart_moved, hstart,
      hstart'] at hread
    simpa using hread.symm
  have hsame : ClassDecl.ofBody start' inside' = ClassDecl.ofBody start inside := by
    obtain ⟨hlinked, hname, -⟩ := BlockStart.mk.inj hmoved
    rw [ClassDecl.ofBody, ClassDecl.ofBody, hname, hlinked,
      ← isBlind_function.scan (g := bare) [] inside', ← map_moved_bare hinside',
      isBlind_function.scan]
  rw [← hsame]
  refine declares_block hstart' (fun other hmem hends => ?_) (hbrace'.endsBody_iff.1 hbrace)
  obtain ⟨token, htoken, halike⟩ := exists_alike_of_mem hinside' hmem
  exact hinside token htoken (halike.endsBody_iff.2 hends)

end Declares

/-- Inline bodies are invisible: a class block with an inline body behind a function, or behind its
address clause, declares the same class as with a semicolon there.  Neither is anything inside the
body found, nor is anything missed behind it. -/
theorem exists_declares_of_inlines {tokens others : List Token} (h : Inlines tokens others) :
    ∃ cls, Declares tokens cls ∧ Declares others cls := by
  obtain @⟨link, header, front, signature, run, body, back, others, semicolon, brace, decl, pairs,
    hlink, hheader, hsignature, hrun, hsemicolon, hbody, hinside, hbrace, hothers⟩ := h
  obtain ⟨start, hstart⟩ := exists_blockStart hlink hheader.choose_spec
  have hsame : ClassDecl.ofBody start (front ++ (signature ++ (run ++ semicolon :: back))) =
      ClassDecl.ofBody start (front ++ (signature ++ (run ++ (body ++ back)))) := by
    rw [ClassDecl.ofBody, ClassDecl.ofBody,
      scan_inlined hsignature hrun hsemicolon hbody front []]
  have hinlined : ∀ token ∈ front ++ (signature ++ (run ++ (body ++ back))), ¬token.EndsBody := by
    simp only [List.forall_mem_append, List.forall_mem_cons] at hinside ⊢
    exact ⟨hinside.1, hinside.2.1, hinside.2.2.1, hbody.indented, hinside.2.2.2.2⟩
  refine ⟨_, declares_block hstart hinside hbrace, ?_⟩
  rw [hsame]
  exact declares_alike hlink hheader hstart hinlined hbrace hothers

/-- A class block in which functions end in semicolons. -/
def plainText : String :=
  "class Menu \x7b\n  int width() = win 0x10;\n  void later();\n\x7d"

/-- The block of `plainText` with an inline body that looks like all that can be declared. -/
def inlineText : String :=
  "class Menu \x7b\n  int width() = win 0x10 \x7b\n    class [[ \x7b int trap() = mac 0x20; " ++
  "\x7d\n  \x7d\n  void later();\n\x7d"

/-- The class of `plainText` is that of `inlineText`. -/
theorem exists_declares_plainText_inlineText :
    ∃ tokens others eof eof', tokenize plainText = .ok (tokens ++ [eof]) ∧
      tokenize inlineText = .ok (others ++ [eof']) ∧ Inlines tokens others ∧
        ∃ cls, (Declares tokens cls ∧ Declares others cls) ∧
          cls.functions.map FunctionDecl.name = ["width", "later"] := by
  let tokens := (tokenize plainText).toOption.getD []
  let others := (tokenize inlineText).toOption.getD []
  let header := tokens.take 3
  let signature := (tokens.drop 3).take 4
  let run := (tokens.drop 7).take 3
  let semicolon := tokens.getD 10 default
  let back := (tokens.drop 11).take 5
  let body := (others.drop 10).take 15
  let brace := tokens.getD 16 default
  let width := ((readSignature signature).map Prod.fst).getD default
  obtain ⟨hplain, hinline, hbehind⟩ : tokenize plainText = .ok (([] ++ header ++
        ([] ++ (signature ++ (run ++ semicolon :: back))) ++ [brace]) ++
          [tokens.getLastD default]) ∧
      tokenize inlineText = .ok (others.dropLast ++ [others.getLastD default]) ∧
      (addresses (run ++ semicolon :: back)).2 = semicolon :: back := by decide +kernel
  obtain ⟨run', pairs, hrest, hrun, -⟩ := exists_isAddressPart (run ++ semicolon :: back)
  rw [hbehind] at hrest hrun
  rw [← List.append_cancel_right hrest] at hrun
  obtain ⟨hheader, hsignature, hsemicolon, hbody, hinside, hbrace, hothers⟩ :
      classHeader.parse header = some (⟨[], "Menu"⟩, []) ∧
      IsSignature signature width ∧ semicolon.kind = .semicolon ∧ IsInlineBody body ∧
      (∀ token ∈ [] ++ (signature ++ (run ++ semicolon :: back)), ¬token.EndsBody) ∧
      brace.EndsBody ∧
      List.Forall₂ Token.Alike ([] ++ header ++
        ([] ++ (signature ++ (run ++ (body ++ back)))) ++ [brace]) others.dropLast := by
    decide +kernel
  have hinlines := Inlines.intro (.inl rfl) ⟨_, hheader⟩ hsignature hrun hsemicolon hbody hinside
    hbrace hothers
  obtain ⟨cls, hcls⟩ := exists_declares_of_inlines hinlines
  have hnames : ((parse plainText).toOption.getD []).map (·.functions.map FunctionDecl.name) =
      [["width", "later"]] := by decide +kernel
  rw [hcls.1.parse plainText _ hplain] at hnames
  exact ⟨_, _, _, _, hplain, hinline, hinlines, cls, hcls, List.singleton_inj.1 hnames⟩

end BindingSync.Binding
