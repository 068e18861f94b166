import BindingSync.Proofs.Binding.Loops
import BindingSync.Proofs.Binding.Walks

/-!
# Backtracking

The walk that looks for a construct does what the rule for it says, which reads the tokens left
(`Construct.follows`).  The parts of a walk that stop where they find no match, a template clause,
a list of parameters or the inside of an attribute block, only keep to their readings; each is
inside a walk that goes back.  So a walk that finds nothing leaves the cursor where it was, and one
that finds something has moved it on, and not behind the end of the text
(`Construct.walk_course`).
-/

namespace BindingSync.Binding

open Cursor (facing)

namespace Walk

variable {α : Type} {left rest : List Token} {token : Token} {kind : TokenKind}

/-! ### Types -/

lemma goes_scopedNames (names : List String) (left : List Token) :
    Goes (loop scopedName names) left (names ++ (Grammar.scopedNames left).1)
      (Grammar.scopedNames left).2 := by
  fun_induction Grammar.scopedNames left generalizing names with
  | case1 mark name rest hkinds found last hfound ih =>
    rw [hfound] at ih
    have hturn : Goes (scopedName names) (mark :: name :: rest) (.inl (names ++ [name.text]))
        rest :=
      (goes_checkPair_true hkinds.1 hkinds.2 rest).yes
        ((goes_advancePair mark name rest).bind (goes_pure _ rest))
    have hnames : names ++ name.text :: found = names ++ [name.text] ++ found := by simp
    have hshorter : rest.length < (mark :: name :: rest).length := by
      simp only [List.length_cons]
      omega
    rw [hnames]
    exact hturn.loop_next hshorter (ih _)
  | case2 mark name rest hkinds =>
    have htest := goes_checkPair .scope .identifier (mark :: name :: rest)
    rw [decide_eq_false (by simpa using hkinds)] at htest
    rw [List.append_nil]
    exact (htest.no (goes_pure _ _)).loop_end
  | case3 left hleft =>
    have htest := goes_checkPair .scope .identifier left
    rw [List.append_nil]
    rw [decide_eq_false] at htest
    · exact (htest.no (goes_pure _ _)).loop_end
    · rcases left with _ | ⟨first, _ | ⟨second, rest⟩⟩
      · simp
      · simp
      · exact absurd rfl (hleft first second rest)

lemma follows_qualifiedName (left : List Token) :
    Follows qualifiedName Grammar.qualifiedName.parse left := by
  cases left with
  | nil => exact .of_none rfl ((goes_accept_of_ne [] (by decide)).bind (goes_pure none []))
  | cons token rest =>
    by_cases hkind : token.kind = .identifier
    · have hparse : Grammar.qualifiedName.parse (token :: rest) =
          some (.ofSegments token.text (Grammar.scopedNames rest).1,
            (Grammar.scopedNames rest).2) := by
        simp [Grammar.qualifiedName, Grammar.frontName, hkind]
      exact .of_some hparse
        ((goes_accept_cons hkind rest).bind ((goes_scopedNames [] rest).bind (goes_pure _ _)))
    · refine .of_none ?_ ((goes_accept_of_ne (token :: rest) hkind).bind (goes_pure none _))
      simp [Grammar.qualifiedName, Grammar.frontName, hkind]

lemma goes_counted (hkind : kind ≠ .eof) (count : Nat) (left : List Token) :
    Goes (loop (counted kind) count) left (count + (Grammar.countOf kind left).1)
      (Grammar.countOf kind left).2 := by
  induction left generalizing count with
  | nil =>
    have hturn : Goes (counted kind count) [] (.inr count) [] :=
      (goes_accept_of_ne [] hkind.symm).bind (goes_pure _ [])
    exact hturn.loop_end
  | cons token rest ih =>
    by_cases h : token.kind = kind
    · have hturn : Goes (counted kind count) (token :: rest) (.inl (count + 1)) rest :=
        (goes_accept_cons h rest).bind (goes_pure _ rest)
      have hgoes := hturn.loop_next (Nat.lt_succ_self _) (ih (count + 1))
      simp only [Grammar.countOf, h, decide_true, List.takeWhile_cons_of_pos,
        List.dropWhile_cons_of_pos, List.length_cons] at hgoes ⊢
      rwa [add_comm _ 1, ← add_assoc]
    · have hturn : Goes (counted kind count) (token :: rest) (.inr count) (token :: rest) :=
        (goes_accept_of_ne (token :: rest) h).bind (goes_pure _ _)
      simpa [Grammar.countOf, h] using hturn.loop_end

lemma goes_countOf (hkind : kind ≠ .eof) (left : List Token) :
    Goes (countOf kind) left (Grammar.countOf kind left).1 (Grammar.countOf kind left).2 := by
  have h := goes_counted hkind 0 left
  rwa [zero_add] at h

/-- Behind an item a comma is read and more items, or there is no comma. -/
lemma listed_eq (rule : Rule α) (left : List Token) :
    rule.listed left = (rule.parse left).bind fun first =>
      match Grammar.expect .comma first.2 with
      | some rest => (rule.listed rest).map fun others => (first.1 :: others.1, others.2)
      | none => some ([first.1], first.2) := by
  rw [Rule.listed]
  congr 1
  funext found
  obtain ⟨first, rest⟩ := found
  cases rest with
  | nil => simp [Rule.afterCommas, Grammar.expect]
  | cons comma behind =>
    by_cases hcomma : comma.kind = .comma
    · simp [Rule.afterCommas_of_comma, Rule.listed, Grammar.expect, hcomma]
    · simp [Rule.afterCommas, Grammar.expect, hcomma]

/-- A turn of a list takes an item and a comma, or the last item, or it finds no item. -/
lemma goes_listed {item : Walk (Option α)} {parse : List Token → Option (α × List Token)}
    (h : Follows item parse left) (items : List α) :
    (parse left = none ∧ Goes (listed item items) left (.inr none) left) ∨
    (∃ found rest, parse left = some (found, rest) ∧ Grammar.expect .comma rest = none ∧
      Goes (listed item items) left (.inr (some (items ++ [found]))) rest) ∨
    ∃ found rest behind, parse left = some (found, rest) ∧
      Grammar.expect .comma rest = some behind ∧
        Goes (listed item items) left (.inl (items ++ [found])) behind := by
  cases hparse : parse left with
  | none => exact .inl ⟨rfl, (h.backs hparse).bind (goes_pure _ left)⟩
  | some found =>
    obtain ⟨found, rest⟩ := found
    have hfound := h.takes hparse
    cases hcomma : Grammar.expect .comma rest with
    | none =>
      have hlast := goes_accept_of_expect_eq_none (by decide) hcomma
      exact .inr (.inl ⟨found, rest, rfl, hcomma, hfound.bind (hlast.bind (goes_pure _ rest))⟩)
    | some behind =>
      obtain ⟨comma, hover⟩ := goes_accept_of_expect hcomma
      exact .inr (.inr ⟨found, rest, behind, rfl, hcomma,
        hfound.bind (hover.bind (goes_pure _ behind))⟩)

section Clauses

variable {type : Walk (Option TypeExpr)} {typeRule : Rule TypeExpr}
  {clause : Walk (Option (List TypeExpr))} {clause? : Option (Rule (List TypeExpr))}

/-- The arguments behind those already found. -/
lemma tracks_args (htype : ∀ left, Follows type typeRule.parse left) (args : List TypeExpr)
    (left : List Token) :
    Tracks (loop (listed type) args)
      (fun tokens => (typeRule.listed tokens).map fun found => (args ++ found.1, found.2))
      left := by
  induction hlength : left.length using Nat.strong_induction_on generalizing args left with
  | _ length ih =>
    subst hlength
    have hlisted := listed_eq typeRule left
    obtain ⟨hparse, hturn⟩ | ⟨arg, rest, hparse, hcomma, hturn⟩ |
      ⟨arg, rest, behind, hparse, hcomma, hturn⟩ := goes_listed (htype left) args
    · rw [hparse, Option.bind_none] at hlisted
      exact .of_none (by rw [hlisted, Option.map_none]) hturn.loop_end
    · rw [hparse, Option.bind_some] at hlisted
      simp only [hcomma] at hlisted
      exact .of_some (by rw [hlisted, Option.map_some]) hturn.loop_end
    · rw [hparse, Option.bind_some] at hlisted
      simp only [hcomma] at hlisted
      have hshorter : behind.length < left.length :=
        (Grammar.length_of_expect hcomma).trans (typeRule.shorter hparse)
      refine (ih _ hshorter (args ++ [arg]) behind rfl).loop_next hturn hshorter ?_
      simp [hlisted, Function.comp_def]

lemma tracks_templateClause (htype : ∀ left, Follows type typeRule.parse left) (open_ : Token)
    (rest : List Token) (hopen : open_.kind = .openAngle) :
    Tracks (templateClause type) (Grammar.templateClause typeRule).parse (open_ :: rest) := by
  have hparse : (Grammar.templateClause typeRule).parse (open_ :: rest) =
      (typeRule.listed rest).bind fun args =>
        (Grammar.expect .closeAngle args.2).map fun last => (args.1, last) := by
    rw [Grammar.templateClause_parse, Grammar.expect_eq_some_iff.2 ⟨open_, rfl, hopen⟩,
      Option.bind_some]
  have hargs := tracks_args htype [] rest
  cases hlisted : typeRule.listed rest with
  | none =>
    obtain ⟨last, hlast⟩ := hargs.stops (by rw [hlisted, Option.map_none])
    refine .of_none (by rw [hparse, hlisted, Option.bind_none])
      ((goes_advance open_ rest).bind (hlast.bind (goes_pure none last)))
  | some found =>
    obtain ⟨args, behind⟩ := found
    have hfound : Goes (loop (listed type) []) rest (some args) behind :=
      hargs.takes (by rw [hlisted]; rfl)
    cases hclose : Grammar.expect .closeAngle behind with
    | none =>
      refine .of_none (by rw [hparse, hlisted, Option.bind_some, hclose, Option.map_none])
        ((goes_advance open_ rest).bind (hfound.bind
          ((goes_accept_of_expect_eq_none (by decide) hclose).bind (goes_pure none behind))))
    | some last =>
      obtain ⟨close, hgoes⟩ := goes_accept_of_expect hclose
      refine .of_some (by rw [hparse, hlisted, Option.bind_some, hclose, Option.map_some])
        ((goes_advance open_ rest).bind (hfound.bind (hgoes.bind (goes_pure (some args) last))))

lemma tracks_templateArgs
    (hclause : ∀ open_ rest, open_.kind = .openAngle →
      Tracks clause (fun tokens => clause?.bind fun rule => rule.parse tokens) (open_ :: rest))
    (left : List Token) :
    Tracks (templateArgs clause) (Grammar.templateArgs clause?) left := by
  by_cases hopen : headKind left = .openAngle
  · have htest := goes_check_of_eq left hopen
    cases left with
    | nil => cases hopen
    | cons open_ rest =>
      have htracks := hclause open_ rest hopen
      have hparse : Grammar.templateArgs clause? (open_ :: rest) = _ :=
        Grammar.templateArgs_of_openAngle hopen rest
      constructor
      · intro args last hargs
        exact htest.yes (htracks.takes (hparse ▸ hargs))
      · intro hnone
        obtain ⟨last, hlast⟩ := htracks.stops (hparse ▸ hnone)
        exact ⟨last, htest.yes hlast⟩
  · refine .of_some (Grammar.templateArgs_of_head fun token hmem => ?_)
      ((goes_check_of_ne left hopen).no (goes_pure (some []) left))
    cases left with
    | nil => cases hmem
    | cons first rest =>
      cases hmem
      exact hopen

/-- A type is read, or the walk comes back. -/
lemma follows_typeWith
    (hclause : ∀ open_ rest, open_.kind = .openAngle →
      Tracks clause (fun tokens => clause?.bind fun rule => rule.parse tokens) (open_ :: rest))
    (left : List Token) :
    Follows (typeWith clause) (Grammar.typeWith clause?).parse left := by
  obtain ⟨leading, hleading, hfirst⟩ := exists_goes_accept .constWord (by decide) left
  have hparse : (Grammar.typeWith clause?).parse left =
      (Grammar.qualifiedName.parse (Grammar.optional .constWord left).2).bind fun name =>
        (Grammar.templateArgs clause? name.2).bind fun args =>
          some (Grammar.typeMarks leading.isSome name.1 args.1 args.2) := by
    rw [hleading]
    rfl
  generalize (Grammar.optional .constWord left).2 = rest at hfirst hparse
  cases hname : Grammar.qualifiedName.parse rest with
  | none =>
    refine .of_none (by rw [hparse, hname, Option.bind_none]) (Returns.goes ?_)
    exact hfirst.returns (((follows_qualifiedName rest).backs hname).returns (returns_backTo _ _))
  | some found =>
    obtain ⟨name, behind⟩ := found
    have hnamed := (follows_qualifiedName rest).takes hname
    rw [hname, Option.bind_some] at hparse
    cases hargs : Grammar.templateArgs clause? behind with
    | none =>
      obtain ⟨last, hlast⟩ := (tracks_templateArgs hclause behind).stops hargs
      refine .of_none (by rw [hparse, hargs, Option.bind_none]) (Returns.goes ?_)
      exact hfirst.returns (hnamed.returns (hlast.returns (returns_backTo _ _)))
    | some found =>
      obtain ⟨args, last⟩ := found
      have hgiven := (tracks_templateArgs hclause behind).takes hargs
      obtain ⟨trailing, htrailing, hmark⟩ :=
        exists_goes_accept .constWord (by decide) last
      refine .of_some (by rw [hparse, hargs, Option.bind_some]) (goes_mark fun start => ?_)
      refine hfirst.bind (hnamed.bind (hgiven.bind (hmark.bind ?_)))
      rw [htrailing]
      exact (goes_countOf (by decide) _).bind ((goes_countOf (by decide) _).bind (goes_pure _ _))

end Clauses

lemma follows_typeExpr (depth : Nat) (left : List Token) :
    Follows (typeExpr depth) (Grammar.typeExpr depth).parse left := by
  induction depth generalizing left with
  | zero =>
    refine follows_typeWith (fun open_ rest _ => ?_) left
    exact .of_none rfl (goes_pure none _)
  | succ depth ih => exact follows_typeWith (tracks_templateClause ih) left

/-! ### Functions -/

lemma goes_paramName (left : List Token) :
    ∃ found : Option Token, found.map Token.text = (Grammar.paramName left).1 ∧
      Goes (accept .identifier) left found (Grammar.paramName left).2 := by
  cases left with
  | nil => exact ⟨none, rfl, goes_accept_of_ne [] (by decide)⟩
  | cons token rest =>
    by_cases h : token.kind = .identifier
    · exact ⟨some token, by simp [Grammar.paramName, h], by
        simpa [Grammar.paramName, h] using goes_accept_cons h rest⟩
    · exact ⟨none, by simp [Grammar.paramName, h], by
        simpa [Grammar.paramName, h] using goes_accept_of_ne (token :: rest) h⟩

lemma follows_param (left : List Token) : Follows param Grammar.param.parse left := by
  have hparse : Grammar.param.parse left =
      ((Grammar.typeExpr templateDepth).parse left).bind fun type =>
        some ({ type := type.1, name := (Grammar.paramName type.2).1 },
          (Grammar.paramName type.2).2) := rfl
  have htype := follows_typeExpr templateDepth left
  cases hfound : (Grammar.typeExpr templateDepth).parse left with
  | none =>
    exact .of_none (by rw [hparse, hfound, Option.bind_none])
      ((htype.backs hfound).bind (goes_pure none left))
  | some found =>
    obtain ⟨type, rest⟩ := found
    obtain ⟨name, hname, hgoes⟩ := goes_paramName rest
    refine .of_some (by rw [hparse, hfound, Option.bind_some])
      ((htype.takes hfound).bind (hgoes.bind ?_))
    rw [← hname]
    exact goes_pure _ _

/-- The parameters behind those already found, and the parenthesis. -/
lemma tracks_nextParam (params : List ParamDecl) (left : List Token) :
    Tracks (loop nextParam params >>= closeParams)
      (fun tokens => (Grammar.paramsUntilClose tokens).map fun found =>
        (params ++ found.1, found.2)) left := by
  induction hlength : left.length using Nat.strong_induction_on generalizing params left with
  | _ length ih =>
    subst hlength
    have hparse := Grammar.paramsUntilClose_eq left
    cases hclose : Grammar.expect .closeParen left with
    | some rest =>
      obtain ⟨close, rfl, hkind⟩ := Grammar.expect_eq_some_iff.1 hclose
      have hturn : Goes (nextParam params) (close :: rest) (.inr (some params)) (close :: rest) :=
        (goes_check_of_eq (close :: rest) hkind).yes (goes_pure _ _)
      refine .of_some (by rw [hparse, hclose, Option.map_some, List.append_nil])
        (hturn.loop_end.bind ((goes_accept_cons hkind rest).bind (goes_pure _ rest)))
    | none =>
      have htest := goes_check_of_ne left (headKind_ne_of_expect (by decide) hclose)
      simp only [hclose] at hparse
      obtain ⟨hparam, hlisted⟩ | ⟨param, rest, hparam, hcomma, hlisted⟩ |
        ⟨param, rest, behind, hparam, hcomma, hlisted⟩ := goes_listed (follows_param left) params
      · have hturn : Goes (nextParam params) left (.inr none) left := htest.no hlisted
        exact .of_none (by rw [hparse, hparam, Option.bind_none, Option.map_none])
          (hturn.loop_end.bind (goes_pure none left))
      · rw [hparam, Option.bind_some] at hparse
        simp only [hcomma] at hparse
        have hturn : Goes (nextParam params) left (.inr (some (params ++ [param]))) rest :=
          htest.no hlisted
        cases hlast : Grammar.expect .closeParen rest with
        | none =>
          exact .of_none (by rw [hparse, hlast]; rfl) (hturn.loop_end.bind
            ((goes_accept_of_expect_eq_none (by decide) hlast).bind (goes_pure none rest)))
        | some last =>
          obtain ⟨close, hclosed⟩ := goes_accept_of_expect hlast
          exact .of_some (by rw [hparse, hlast]; rfl)
            (hturn.loop_end.bind (hclosed.bind (goes_pure _ last)))
      · rw [hparam, Option.bind_some] at hparse
        simp only [hcomma] at hparse
        have hturn : Goes (nextParam params) left (.inl (params ++ [param])) behind :=
          htest.no hlisted
        have hshorter : behind.length < left.length :=
          (Grammar.length_of_expect hcomma).trans (Grammar.param.shorter hparam)
        refine (ih _ hshorter (params ++ [param]) behind rfl).loop_next_bind hturn hshorter ?_
        simp [hparse, Function.comp_def]

lemma tracks_paramList (left : List Token) :
    Tracks paramList Grammar.paramList.parse left := by
  have hparse : Grammar.paramList.parse left =
      (Grammar.expect .openParen left).bind Grammar.paramsUntilClose := rfl
  cases hopen : Grammar.expect .openParen left with
  | none =>
    exact .of_none (by rw [hparse, hopen, Option.bind_none])
      ((goes_accept_of_expect_eq_none (by decide) hopen).bind (goes_pure none left))
  | some rest =>
    obtain ⟨token, hgoes⟩ := goes_accept_of_expect hopen
    rw [hopen, Option.bind_some] at hparse
    have hparams := tracks_nextParam [] rest
    constructor
    · intro params last hfound
      refine hgoes.bind (hparams.takes ?_)
      rw [← hparse, hfound]
      rfl
    · intro hnone
      obtain ⟨last, hlast⟩ := hparams.stops (by rw [← hparse, hnone, Option.map_none])
      exact ⟨last, hgoes.bind hlast⟩

/-- Without a pair in front no more pairs are looked for. -/
lemma goes_addressPair_end (pairs : AddressClause) (left : List Token)
    (h : headKind left = .identifier → ∀ end_ : Token, end_.kind = .eof →
      Grammar.offset? (left.tail.headD end_) = none) :
    Goes (loop addressPair pairs) left pairs left := by
  have hturn : Goes (addressPair pairs) left (.inr pairs) left := by
    by_cases hkind : headKind left = .identifier
    · refine (goes_check_of_eq left hkind).yes (goes_peek fun end_ hend => ?_)
      rw [h hkind end_ hend]
      exact goes_pure _ left
    · exact (goes_check_of_ne left hkind).no (goes_pure _ left)
  exact hturn.loop_end

/-- The pairs behind those already found. -/
lemma goes_addressPair (pairs : AddressClause) (left : List Token) :
    Goes (loop addressPair pairs) left (pairs ++ (Grammar.addressPairs left).1)
      (Grammar.addressPairs left).2 := by
  fun_induction Grammar.addressPairs left generalizing pairs with
  | case1 tag number rest offset hoffset hkind found last hfound ih =>
    rw [hfound] at ih
    obtain ⟨comma, -, hcomma⟩ := exists_goes_accept .comma (by decide) rest
    have hturn : Goes (addressPair pairs) (tag :: number :: rest)
        (.inl (pairs ++ [(tag.text, offset)])) (Grammar.optional .comma rest).2 := by
      refine (goes_check_of_eq (tag :: number :: rest) hkind).yes (goes_peek fun end_ _ => ?_)
      rw [List.tail_cons, List.headD_cons, hoffset]
      exact (goes_advance tag _).bind ((goes_advance number rest).bind
        (hcomma.bind (goes_pure _ _)))
    have hpairs : pairs ++ (tag.text, offset) :: found =
        pairs ++ [(tag.text, offset)] ++ found := by simp
    have hshorter : (Grammar.optional .comma rest).2.length < (tag :: number :: rest).length := by
      have hcomma := Grammar.length_optional .comma rest
      simp only [List.length_cons]
      omega
    rw [hpairs]
    exact hturn.loop_next hshorter (ih _)
  | case2 tag number rest hnot =>
    rw [List.append_nil]
    exact goes_addressPair_end pairs _ fun hkind end_ _ =>
      Option.eq_none_iff_forall_ne_some.2 fun offset hoffset => hnot offset hkind hoffset
  | case3 left hleft =>
    rw [List.append_nil]
    refine goes_addressPair_end pairs left fun _ end_ hend => ?_
    rcases left with _ | ⟨first, _ | ⟨second, rest⟩⟩
    · simp [Grammar.offset?, hend]
    · simp [Grammar.offset?, hend]
    · exact absurd rfl (hleft first second rest)

lemma addressClause_eq (left : List Token) : Grammar.addressClause.parse left =
    (Grammar.expect .equals left).bind fun rest =>
      match Grammar.addressPairs rest with
      | ([], _) => none
      | (pairs, last) =>
        some ((Grammar.keepFirst pairs).filter (·.2 != sentinelOffset), last) :=
  rfl

lemma follows_addressClause (left : List Token) :
    Follows addressClause Grammar.addressClause.parse left := by
  have hparse := addressClause_eq left
  cases hequals : Grammar.expect .equals left with
  | none =>
    exact .of_none (by rw [hparse, hequals, Option.bind_none])
      (goes_mark fun start => (goes_accept_of_expect_eq_none (by decide) hequals).bind
        (goes_pure none left))
  | some rest =>
    obtain ⟨equals, hgoes⟩ := goes_accept_of_expect hequals
    have hpairs := goes_addressPair [] rest
    rw [hequals, Option.bind_some] at hparse
    rw [List.nil_append] at hpairs
    generalize Grammar.addressPairs rest = found at hparse hpairs
    obtain ⟨_ | ⟨pair, pairs⟩, last⟩ := found
    · exact .of_none hparse (hgoes.returns (hpairs.returns (returns_backTo _ _))).goes
    · exact .of_some hparse (goes_mark fun start => hgoes.bind (hpairs.bind (goes_pure _ last)))

/-- One token of a block counts the braces that are open. -/
lemma goes_blockToken (depth : Nat) (hinner : token.kind ≠ .eof) (rest : List Token) :
    Goes (blockToken depth) (token :: rest)
      (if token.kind = .openBrace then .inl (depth + 1)
        else if token.kind = .closeBrace then if depth ≤ 1 then .inr () else .inl (depth - 1)
        else .inl depth) rest := by
  refine (goes_atEnd_cons hinner rest).no ((goes_advance token rest).bind ?_)
  split_ifs <;> exact goes_pure _ rest

lemma goes_skipBlock (depth : Nat) (left : List Token) :
    Goes (loop blockToken depth) left () (Grammar.skipBlock depth left) := by
  fun_induction Grammar.skipBlock depth left with
  | case1 depth => exact ((goes_atEnd []).yes (goes_pure _ [])).loop_end
  | case2 depth token rest hend =>
    have htest := goes_atEnd (token :: rest)
    rw [headKind_cons, decide_eq_true hend] at htest
    exact (htest.yes (goes_pure _ _)).loop_end
  | case3 depth token rest hinner hopen ih =>
    have hturn := goes_blockToken depth hinner rest
    rw [if_pos hopen] at hturn
    exact hturn.loop_next (Nat.lt_succ_self _) ih
  | case4 depth token rest hinner hopen hclose hlast =>
    have hturn := goes_blockToken depth hinner rest
    rw [if_neg hopen, if_pos hclose, if_pos hlast] at hturn
    exact hturn.loop_end
  | case5 depth token rest hinner hopen hclose hmore ih =>
    have hturn := goes_blockToken depth hinner rest
    rw [if_neg hopen, if_pos hclose, if_neg hmore] at hturn
    exact hturn.loop_next (Nat.lt_succ_self _) ih
  | case6 depth token rest hinner hopen hclose ih =>
    have hturn := goes_blockToken depth hinner rest
    rw [if_neg hopen, if_neg hclose] at hturn
    exact hturn.loop_next (Nat.lt_succ_self _) ih

/-- A body is passed over if a brace opens it. -/
lemma goes_skipBody (left : List Token) : Goes skipBody left () (Grammar.skipBody left) := by
  have hhead : left.head?.map Token.kind = some .openBrace ↔ headKind left = .openBrace := by
    cases left <;> simp
  by_cases hopen : headKind left = .openBrace
  · rw [Grammar.skipBody, if_pos (hhead.2 hopen)]
    exact (goes_check_of_eq left hopen).yes (goes_skipBlock 0 left)
  · rw [Grammar.skipBody, if_neg (mt hhead.1 hopen)]
    exact (goes_check_of_ne left hopen).no (goes_pure () left)

lemma goes_dispatch (left : List Token) :
    Goes dispatch left (Grammar.dispatch left).1 (Grammar.dispatch left).2 := by
  refine goes_current fun end_ hend => ?_
  cases left with
  | nil =>
    rw [List.headD_nil, hend]
    exact goes_pure _ []
  | cons token rest =>
    rw [List.headD_cons, Grammar.dispatch]
    cases Grammar.dispatchOf? token.kind with
    | none => exact goes_pure _ _
    | some dispatch => exact (goes_advance token rest).bind (goes_pure _ rest)

lemma typedHeading_eq (left : List Token) : Grammar.heading.typed left =
    ((Grammar.typeExpr templateDepth).parse left).bind fun type =>
      (Grammar.paramName type.2).1.map fun name =>
        ({ name, returnType := some type.1 }, (Grammar.paramName type.2).2) := by
  rw [Grammar.heading.typed]
  refine Option.bind_congr fun type _ => ?_
  obtain ⟨type, rest⟩ := type
  rcases hname : Grammar.paramName rest with ⟨_ | name, last⟩ <;> simp [hname]

/-- The return type and the name of a function, behind no tilde. -/
lemma tracks_typedHeading (left : List Token) :
    Tracks (do
      match ← typeExpr templateDepth with
      | none => return none
      | some type =>
        let name ← accept .identifier
        return name.map fun name => { name := name.text, returnType := some type })
      Grammar.heading.typed left := by
  have hparse := typedHeading_eq left
  have htype := follows_typeExpr templateDepth left
  cases hfound : (Grammar.typeExpr templateDepth).parse left with
  | none =>
    exact .of_none (by rw [hparse, hfound, Option.bind_none])
      ((htype.backs hfound).bind (goes_pure none left))
  | some found =>
    obtain ⟨type, rest⟩ := found
    obtain ⟨name, hname, hgoes⟩ := goes_paramName rest
    rw [hfound, Option.bind_some, ← hname] at hparse
    cases name with
    | none => exact .of_none hparse ((htype.takes hfound).bind (hgoes.bind (goes_pure _ _)))
    | some name => exact .of_some hparse ((htype.takes hfound).bind (hgoes.bind (goes_pure _ _)))

lemma tracks_heading (left : List Token) : Tracks heading Grammar.heading left := by
  have htest := goes_checkPair .tilde .identifier left
  by_cases htilde : headKind left = .tilde ∧ headKind left.tail = .identifier
  · rw [decide_eq_true htilde] at htest
    rcases left with _ | ⟨tilde, _ | ⟨name, rest⟩⟩
    · cases htilde.1
    · cases htilde.2
    · exact .of_some (if_pos htilde)
        (htest.yes ((goes_advancePair tilde name rest).bind (goes_pure _ rest)))
  · have hparse : Grammar.heading left = Grammar.heading.typed left := by
      rcases left with _ | ⟨first, _ | ⟨second, rest⟩⟩
      · rfl
      · rfl
      · exact if_neg htilde
    rw [decide_eq_false htilde] at htest
    have htyped := tracks_typedHeading left
    constructor
    · intro value rest hfound
      exact htest.no (htyped.takes (hparse ▸ hfound))
    · intro hnone
      obtain ⟨rest, hgoes⟩ := htyped.stops (hparse ▸ hnone)
      exact ⟨rest, htest.no hgoes⟩

/-- An address clause may be missing. -/
lemma exists_goes_addresses (left : List Token) :
    ∃ found : Option AddressClause, found.getD [] = (Grammar.addresses left).1 ∧
      Goes addressClause left found (Grammar.addresses left).2 := by
  have hclause := follows_addressClause left
  rw [Grammar.addresses]
  cases hfound : Grammar.addressClause.parse left with
  | none => exact ⟨none, rfl, hclause.backs hfound⟩
  | some found => exact ⟨some found.1, rfl, hclause.takes hfound⟩

lemma follows_function (left : List Token) : Follows function Grammar.function.parse left := by
  have hdispatch := goes_dispatch left
  have hparse : Grammar.function.parse left =
      (Grammar.heading (Grammar.dispatch left).2).bind fun heading =>
        (Grammar.paramList.parse heading.2).bind fun params =>
          some ({ heading.1 with
            isDestructor := heading.1.returnType.isNone
            dispatch := (Grammar.dispatch left).1
            params := params.1
            addresses := (Grammar.addresses params.2).1 },
            Grammar.skipBody (Grammar.addresses params.2).2) := rfl
  generalize Grammar.dispatch left = dispatched at hdispatch hparse
  cases hheading : Grammar.heading dispatched.2 with
  | none =>
    obtain ⟨rest, hrest⟩ := (tracks_heading _).stops hheading
    refine .of_none (by rw [hparse, hheading, Option.bind_none]) (Returns.goes ?_)
    exact hdispatch.returns (hrest.returns (returns_backTo _ _))
  | some headed =>
    have hheaded := (tracks_heading _).takes hheading
    rw [hheading, Option.bind_some] at hparse
    cases hparams : Grammar.paramList.parse headed.2 with
    | none =>
      obtain ⟨rest, hrest⟩ := (tracks_paramList _).stops hparams
      refine .of_none (by rw [hparse, hparams, Option.bind_none]) (Returns.goes ?_)
      exact hdispatch.returns (hheaded.returns (hrest.returns (returns_backTo _ _)))
    | some listed =>
      have hlisted := (tracks_paramList _).takes hparams
      obtain ⟨found, hfound, haddresses⟩ := exists_goes_addresses listed.2
      refine .of_some (by rw [hparse, hparams, Option.bind_some]) (goes_mark fun start => ?_)
      refine hdispatch.bind (hheaded.bind (hlisted.bind (haddresses.bind ?_)))
      rw [hfound]
      exact (goes_skipBody _).bind (goes_pure _ _)

/-! ### Classes -/

/-- Inside a link its platforms are read up to the parenthesis. -/
lemma goes_linkedTags (platforms : List String) {left : List Token} (hleft : IsInner left) :
    ∃ linked rest, Goes (linkedTags platforms) left linked rest ∧
      Grammar.linkedIn true platforms left = Grammar.linkedIn false linked rest := by
  induction left generalizing platforms with
  | nil =>
    have hturn : Goes (linkedTag platforms) [] (.inr platforms) [] :=
      (goes_check _ []).yes (goes_pure _ [])
    refine ⟨platforms, [], ?_, by rw [Grammar.linkedIn, Grammar.linkedIn]⟩
    exact hturn.loop_end.bind ((goes_accept_of_ne [] (by decide)).bind (goes_pure _ []))
  | cons token rest ih =>
    have htest := goes_check [.closeParen, .eof] (token :: rest)
    have hinner : token.kind ≠ .eof := hleft token List.mem_cons_self
    by_cases hclose : token.kind = .closeParen
    · rw [headKind_cons, hclose] at htest
      have hturn : Goes (linkedTag platforms) (token :: rest) (.inr platforms) (token :: rest) :=
        htest.yes (goes_pure _ _)
      refine ⟨platforms, rest, ?_, by rw [Grammar.linkedIn_inside, if_pos hclose]⟩
      exact hturn.loop_end.bind ((goes_accept_cons hclose rest).bind (goes_pure _ rest))
    · rw [show List.contains _ (headKind (token :: rest)) = false by simp [hclose, hinner]] at htest
      have hturn : Goes (linkedTag platforms) (token :: rest)
          (.inl (if token.kind = .identifier then platforms ++ [token.text] else platforms)) rest :=
        htest.no ((goes_advance token rest).bind (goes_pure _ rest))
      obtain ⟨linked, last, hgoes, hread⟩ := ih _ hleft.tail
      refine ⟨linked, last, ?_, ?_⟩
      · exact hturn.loop_next_bind (Nat.lt_succ_self _) hgoes
      · rw [Grammar.linkedIn_inside, if_neg hclose, ← hread]
        split_ifs <;> rfl

/-- A token that closes no attribute block and opens no link is passed over. -/
lemma goes_attributePart_of_ne (platforms : List String) (hinner : token.kind ≠ .eof)
    (hclose : ¬(token.kind = .closeBracket ∧ headKind rest = .closeBracket))
    (hlink : token.kind = .identifier ∧ token.text = "link" → headKind rest ≠ .openParen) :
    Goes (attributePart platforms) (token :: rest) (.inl platforms) rest := by
  have htest := goes_checkPair .closeBracket .closeBracket (token :: rest)
  rw [decide_eq_false (by simpa using hclose)] at htest
  refine (goes_atEnd_cons hinner rest).no (htest.no ((goes_advance token rest).bind ?_))
  split_ifs with hword
  · exact (goes_accept_of_ne rest (hlink hword)).bind (goes_pure _ rest)
  · exact goes_pure _ rest

/-- A link is taken with all its platforms. -/
lemma goes_attributePart_link {platforms linked : List String} {left : List Token} {open_ : Token}
    (hkind : token.kind = .identifier) (htext : token.text = "link")
    (hopen : open_.kind = .openParen) (hlinked : Goes (linkedTags platforms) left linked rest) :
    Goes (attributePart platforms) (token :: open_ :: left) (.inl linked) rest := by
  have htest := goes_checkPair .closeBracket .closeBracket (token :: open_ :: left)
  rw [decide_eq_false (by simp [hkind])] at htest
  refine (goes_atEnd_cons (by simp [hkind]) _).no (htest.no ((goes_advance token _).bind ?_))
  rw [if_pos ⟨hkind, htext⟩]
  exact (goes_accept_cons hopen left).bind (hlinked.bind (goes_pure _ rest))

/-- The platforms that an attribute block links behind those already found. -/
lemma tracks_attributePart (platforms : List String) {left : List Token} (hleft : IsInner left) :
    Tracks (loop attributePart platforms) (Grammar.linkedIn false platforms) left := by
  induction hlength : left.length using Nat.strong_induction_on generalizing platforms left with
  | _ length ih =>
    subst hlength
    rcases left with _ | ⟨token, _ | ⟨next, rest⟩⟩
    · exact .of_none (by rw [Grammar.linkedIn])
        ((goes_atEnd []).yes (goes_pure _ [])).loop_end
    · have hturn : Goes (attributePart platforms) [token] (.inl platforms) [] :=
        goes_attributePart_of_ne platforms (hleft token List.mem_cons_self) (by simp) (by simp)
      exact .of_none (by simp [Grammar.linkedIn])
        (hturn.loop_next (Nat.lt_succ_self _) ((goes_atEnd []).yes (goes_pure _ [])).loop_end)
    · have hinner := hleft token List.mem_cons_self
      have hread : Grammar.linkedIn false platforms (token :: next :: rest) =
          if token.kind = .closeBracket ∧ next.kind = .closeBracket then some (platforms, rest)
          else if token.kind = .identifier ∧ token.text = "link" ∧ next.kind = .openParen then
            Grammar.linkedIn true platforms rest
          else Grammar.linkedIn false platforms (next :: rest) := by
        rw [Grammar.linkedIn.eq_def]
        rfl
      by_cases hclose : token.kind = .closeBracket ∧ next.kind = .closeBracket
      · rw [if_pos hclose] at hread
        have hturn : Goes (attributePart platforms) (token :: next :: rest)
            (.inr (some platforms)) rest :=
          (goes_atEnd_cons hinner _).no ((goes_checkPair_true hclose.1 hclose.2 rest).yes
            ((goes_advancePair token next rest).bind (goes_pure _ rest)))
        exact .of_some hread hturn.loop_end
      rw [if_neg hclose] at hread
      by_cases hlink : token.kind = .identifier ∧ token.text = "link" ∧ next.kind = .openParen
      · obtain ⟨linked, last, hgoes, hlast⟩ := goes_linkedTags platforms hleft.tail.tail
        rw [if_pos hlink, hlast] at hread
        have hturn := goes_attributePart_link hlink.1 hlink.2.1 hlink.2.2 hgoes
        have hshorter : last.length < (token :: next :: rest).length := by
          have := hgoes.suffix.length_le
          simp only [List.length_cons]
          omega
        have hmore := ih _ hshorter linked (hgoes.isInner hleft.tail.tail) rfl
        exact hmore.loop_next hturn hshorter hread
      · rw [if_neg hlink] at hread
        have hturn : Goes (attributePart platforms) (token :: next :: rest) (.inl platforms)
            (next :: rest) :=
          goes_attributePart_of_ne platforms hinner hclose
            fun hword hopen => hlink ⟨hword.1, hword.2, hopen⟩
        have hshorter : (next :: rest).length < (token :: next :: rest).length :=
          Nat.lt_succ_self _
        have hmore := ih _ hshorter platforms hleft.tail rfl
        exact hmore.loop_next hturn hshorter hread

lemma follows_linkAttribute {left : List Token} (hleft : IsInner left) :
    Follows linkAttribute Grammar.linkAttribute.parse left := by
  have htest := goes_checkPair .openBracket .openBracket left
  by_cases hopen : headKind left = .openBracket ∧ headKind left.tail = .openBracket
  · rw [decide_eq_true hopen] at htest
    rcases left with _ | ⟨first, _ | ⟨second, rest⟩⟩
    · cases hopen.1
    · cases hopen.2
    · have hparse : Grammar.linkAttribute.parse (first :: second :: rest) =
          Grammar.linkedIn false [] rest := by
        simp [Grammar.linkAttribute, Grammar.expect, show first.kind = _ from hopen.1,
          show second.kind = _ from hopen.2]
      have htracks := tracks_attributePart [] hleft.tail.tail
      have hstart := goes_advancePair first second rest
      cases hread : Grammar.linkedIn false [] rest with
      | none =>
        obtain ⟨last, hlast⟩ := htracks.stops hread
        exact .of_none (hparse.trans hread)
          (htest.yes (hstart.returns (hlast.returns (returns_backTo _ _))).goes)
      | some found =>
        exact .of_some (hparse.trans hread) (htest.yes (goes_mark fun start =>
          hstart.bind ((htracks.takes hread).bind (goes_pure _ _))))
  · rw [decide_eq_false hopen] at htest
    have hparse : Grammar.linkAttribute.parse left = none := by
      simp only [Grammar.linkAttribute, Option.bind_eq_bind, Option.bind_eq_none_iff]
      intro rest hfirst last hsecond
      obtain ⟨first, rfl, hfirstKind⟩ := Grammar.expect_eq_some_iff.1 hfirst
      obtain ⟨second, rfl, hsecondKind⟩ := Grammar.expect_eq_some_iff.1 hsecond
      exact absurd ⟨hfirstKind, hsecondKind⟩ hopen
    exact .of_none hparse (htest.no (goes_pure none left))

/-- The bases are passed over up to a brace. -/
lemma goes_baseToken {left : List Token} (hleft : IsInner left) :
    Goes (loop baseToken ()) left () (left.dropWhile (·.kind != .openBrace)) := by
  induction left with
  | nil => exact ((goes_check _ []).yes (goes_pure _ [])).loop_end
  | cons token rest ih =>
    have htest := goes_check [.openBrace, .eof] (token :: rest)
    have hinner : token.kind ≠ .eof := hleft token List.mem_cons_self
    by_cases hopen : token.kind = .openBrace
    · rw [headKind_cons, hopen] at htest
      rw [List.dropWhile_cons_of_neg (by simp [hopen])]
      exact (htest.yes (goes_pure _ _)).loop_end
    · rw [show List.contains _ (headKind (token :: rest)) = false by simp [hopen, hinner]] at htest
      rw [List.dropWhile_cons_of_pos (by simp [hopen])]
      have hturn : Goes (baseToken ()) (token :: rest) (.inl ()) rest :=
        htest.no ((goes_advance token rest).bind (goes_pure _ rest))
      exact hturn.loop_next (Nat.lt_succ_self _) (ih hleft.tail)

lemma goes_skipBases {left : List Token} (hleft : IsInner left) :
    Goes skipBases left () (Grammar.skipBases left) := by
  rw [Grammar.skipBases]
  cases hcolon : Grammar.expect .colon left with
  | none => exact (goes_accept_of_expect_eq_none (by decide) hcolon).bind (goes_pure _ left)
  | some rest =>
    obtain ⟨colon, rfl, hkind⟩ := Grammar.expect_eq_some_iff.1 hcolon
    exact (goes_accept_cons hkind rest).bind (goes_baseToken hleft.tail)

lemma follows_classHeader {left : List Token} (hleft : IsInner left) :
    Follows classHeader Grammar.classHeader.parse left := by
  have hparse : Grammar.classHeader.parse left =
      (Grammar.expect .classWord left).bind fun rest =>
        (Grammar.qualifiedName.parse rest).bind fun name =>
          (Grammar.expect .openBrace (Grammar.skipBases name.2)).bind fun last =>
            some (name.1, last) := rfl
  cases hword : Grammar.expect .classWord left with
  | none =>
    exact .of_none (by rw [hparse, hword, Option.bind_none])
      (goes_mark fun start => (goes_accept_of_expect_eq_none (by decide) hword).bind
        (goes_pure none left))
  | some rest =>
    obtain ⟨word, hgoes⟩ := goes_accept_of_expect hword
    rw [hword, Option.bind_some] at hparse
    cases hname : Grammar.qualifiedName.parse rest with
    | none =>
      refine .of_none (by rw [hparse, hname, Option.bind_none]) (Returns.goes ?_)
      exact hgoes.returns (((follows_qualifiedName rest).backs hname).returns (returns_backTo _ _))
    | some named =>
      have hnamed := (follows_qualifiedName rest).takes hname
      have hbases := goes_skipBases (hnamed.isInner (hgoes.isInner hleft))
      rw [hname, Option.bind_some] at hparse
      cases hopen : Grammar.expect .openBrace (Grammar.skipBases named.2) with
      | none =>
        refine .of_none (by rw [hparse, hopen, Option.bind_none]) (Returns.goes ?_)
        exact hgoes.returns (hnamed.returns (hbases.returns
          ((goes_accept_of_expect_eq_none (by decide) hopen).returns (returns_backTo _ _))))
      | some last =>
        obtain ⟨brace, hbrace⟩ := goes_accept_of_expect hopen
        exact .of_some (by rw [hparse, hopen, Option.bind_some])
          (goes_mark fun start => hgoes.bind (hnamed.bind (hbases.bind
            (hbrace.bind (goes_pure _ last)))))

end Walk

/-! ### Rules at a cursor -/

namespace Construct

/-- The walk that looks for a construct does what its rule says. -/
lemma follows (construct : Construct) {left : List Token} (hleft : IsInner left) :
    Walk.Follows construct.walk construct.rule.parse left := by
  cases construct with
  | type depth =>
    have htype := Walk.follows_typeExpr depth left
    exact ⟨fun h => htype.takes ((Grammar.typeUpTo_parse depth left).symm.trans h),
      fun h => htype.backs ((Grammar.typeUpTo_parse depth left).symm.trans h)⟩
  | param => exact Walk.follows_param left
  | addressClause => exact Walk.follows_addressClause left
  | function => exact Walk.follows_function left
  | linkAttribute => exact Walk.follows_linkAttribute hleft
  | classHeader => exact Walk.follows_classHeader hleft

end Construct

/-- The last token of a cursor is that for the end of the text, and no other one is; the cursor is
at one of the tokens. -/
structure Cursor.IsProper (cursor : Cursor) : Prop where
  isInner : IsInner cursor.tokens.dropLast
  last_eof : ∃ end_ ∈ cursor.tokens.getLast?, end_.kind = .eof
  nonneg : 0 ≤ cursor.position
  le_last : cursor.position ≤ cursor.last

/-- A cursor has tokens behind it, tokens in front of it and the end of the text. -/
lemma Cursor.IsProper.exists_facing {cursor : Cursor} (h : cursor.IsProper) :
    ∃ before left end_, cursor = facing before left end_ ∧ IsInner left ∧ end_.kind = .eof := by
  obtain ⟨tokens, position⟩ := cursor
  obtain ⟨hinner, ⟨end_, hlast, hend⟩, hnonneg, hle⟩ := h
  obtain ⟨inner, rfl⟩ := List.getLast?_eq_some_iff.1 hlast
  obtain ⟨place, rfl⟩ := Int.eq_ofNat_of_zero_le hnonneg
  have hplace : place ≤ inner.length := by
    simp only [last, List.length_append, List.length_singleton] at hle
    omega
  rw [List.dropLast_concat] at hinner
  refine ⟨inner.take place, inner.drop place, end_, ?_, ?_, hend⟩
  · simp only [facing, ← List.append_assoc, List.take_append_drop, List.length_take,
      Nat.min_eq_left hplace]
  · exact fun token hmem => hinner token (List.mem_of_mem_drop hmem)

/-- Every rule backtracks cleanly.  The walk that looks for a construct always ends, and does what
the rule does.  Without a result the cursor is exactly where it was; with one it has moved on, and
not behind the end of the text. -/
theorem Construct.walk_course (construct : Construct) {cursor : Cursor} (h : cursor.IsProper) :
    ∃ result after, construct.walk cursor = some (result, after) ∧
      cursor.runRule? construct.rule = some (result, after) ∧
      (result = none → after = cursor) ∧
      (result.isSome → after.tokens = cursor.tokens ∧ cursor.position < after.position ∧
        after.position ≤ cursor.last) := by
  obtain ⟨before, left, end_, rfl, hinner, hend⟩ := h.exists_facing
  have hfollows := construct.follows hinner
  cases hparse : construct.rule.parse left with
  | none =>
    obtain ⟨taken, htaken, hwalk⟩ := hfollows.backs hparse
    obtain rfl : taken = [] := List.append_left_eq_self.1 htaken.symm
    have hwalked := hwalk before end_ hend
    rw [List.append_nil] at hwalked
    exact ⟨none, _, hwalked, Cursor.runRule?_facing_eq_none hparse, fun _ => rfl, nofun⟩
  | some found =>
    obtain ⟨value, rest⟩ := found
    obtain ⟨taken, rfl, hwalk⟩ := hfollows.takes hparse
    have hshorter := construct.rule.shorter hparse
    refine ⟨some value, _, hwalk before end_ hend, Cursor.runRule?_facing_eq_some hparse, nofun,
      fun _ => ⟨?_, ?_, ?_⟩⟩
    · simp only [facing, List.append_assoc]
    · simp only [Cursor.position_facing, List.length_append] at hshorter ⊢
      omega
    · simp only [Cursor.position_facing, Cursor.last_facing, List.length_append]
      omega

/-- At depth one the walk takes the tokens of a type up to its second clause and goes back; at depth
two it takes the type. -/
theorem Construct.walk_course_nestedType :
    (Cursor.between [] (nestedType ++ variableName) .start).IsProper ∧
      (type 1).walk (.between [] (nestedType ++ variableName) .start) =
        some (none, .between [] (nestedType ++ variableName) .start) ∧
      ∃ result after, (type 2).walk (.between [] (nestedType ++ variableName) .start) =
        some (some result, after) ∧ 0 < after.position ∧ after.position ≤ 17 := by
  have hproper : (Cursor.between [] (nestedType ++ variableName) .start).IsProper :=
    ⟨by decide +kernel, by decide +kernel, by decide, by decide⟩
  refine ⟨hproper, ?_, ?_⟩
  · obtain ⟨result, after, hwalk, hrule, hback, -⟩ := (type 1).walk_course hproper
    have hnone : ((Cursor.between [] (nestedType ++ variableName) .start).runRule?
        (type 1).rule).map (·.1.isSome) = some false := by decide +kernel
    rw [hrule, Option.map_some, Option.some_inj] at hnone
    obtain rfl : result = none := Option.isNone_iff_eq_none.1 (Option.isSome_eq_false_iff.1 hnone)
    rw [hwalk, hback rfl]
  · obtain ⟨result, after, hwalk, hrule, -, hon⟩ := (type 2).walk_course hproper
    have hsome : ((Cursor.between [] (nestedType ++ variableName) .start).runRule?
        (type 2).rule).map (·.1.isSome) = some true := by decide +kernel
    rw [hrule, Option.map_some, Option.some_inj] at hsome
    obtain ⟨value, rfl⟩ := Option.isSome_iff_exists.1 hsome
    obtain ⟨-, hpos, hle⟩ := hon rfl
    exact ⟨value, after, hwalk, hpos, hle⟩

end BindingSync.Binding
