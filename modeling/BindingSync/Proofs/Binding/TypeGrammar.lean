import BindingSync.Proofs.Binding.Cursors
import BindingSync.Proofs.Binding.Types

/-!
# The grammar of types

A type is written as `[const] A::B[<T, ...>] [const] [*...] [&...]`, where the arguments of a
template clause are types of the depth below (`IsType`).  A sentence of this grammar may go on in
the tokens behind it: a name by a scope or a clause, a clause by its marks, and the marks by more of
their kind (`GoesOn`).

The rule for types takes a sentence off the front exactly if it does not go on
(`recognizes_typeExpr`).  This is shown part by part, for each part says where it ends; the types in
a clause are read by the rule of the depth below.  A sentence that nests deeper than the rule allows
is never read, whatever comes behind it (`typeExpr_eq_none_of_deeper`).
-/

namespace BindingSync.Binding

open BindingSync.Text

/-- The rule takes a sentence off the front exactly if the sentence does not go on behind it. -/
def Rule.Recognizes {α : Type} (rule : Rule α) (IsSentence : List Token → α → Prop)
    (GoesOn : List Token → List Token → Prop) : Prop :=
  ∀ {tokens rest : List Token} {value : α}, rule.parse tokens = some (value, rest) ↔
    ∃ taken, tokens = taken ++ rest ∧ IsSentence taken value ∧ ¬GoesOn taken rest

/-- What a rule reads once and then behind each comma. -/
def Rule.listed {α : Type} (rule : Rule α) (tokens : List Token) :
    Option (List α × List Token) :=
  (rule.parse tokens).bind fun first =>
    (rule.afterCommas first.2).map fun others => (first.1 :: others.1, others.2)

namespace Grammar

/-! ### Sentences -/

/-- The tokens are one of a kind, or none. -/
inductive IsOptional (kind : TokenKind) : List Token → Bool → Prop
  | absent : IsOptional kind [] false
  | present {token : Token} (h : token.kind = kind) : IsOptional kind [token] true

/-- The tokens are so many of a kind. -/
structure IsRun (kind : TokenKind) (tokens : List Token) (count : Nat) : Prop where
  kind_eq : ∀ token ∈ tokens, token.kind = kind
  length_eq : tokens.length = count

/-- One or more items, with commas between them. -/
inductive IsListed {α : Type} (IsItem : List Token → α → Prop) : List Token → List α → Prop
  | last {tokens : List Token} {value : α} (h : IsItem tokens value) :
      IsListed IsItem tokens [value]
  | cons {tokens more : List Token} {value : α} {values : List α} {comma : Token}
      (h : IsItem tokens value) (hcomma : comma.kind = .comma)
      (hmore : IsListed IsItem more values) :
      IsListed IsItem (tokens ++ comma :: more) (value :: values)

/-- Names behind a first one, each behind a `::`. -/
inductive IsScoped : List Token → List String → Prop
  | nil : IsScoped [] []
  | cons {mark name : Token} {more : List Token} {names : List String} (hmark : mark.kind = .scope)
      (hname : name.kind = .identifier) (h : IsScoped more names) :
      IsScoped (mark :: name :: more) (name.text :: names)

/-- Identifiers with `::` between them. -/
inductive IsName : List Token → QualifiedName → Prop
  | intro {first : Token} {more : List Token} {names : List String}
      (hfirst : first.kind = .identifier) (h : IsScoped more names) :
      IsName (first :: more) (.ofSegments first.text names)

/-- Arguments between angle brackets, or nothing. -/
inductive IsClause (IsArg : List Token → TypeExpr → Prop) : List Token → List TypeExpr → Prop
  | absent : IsClause IsArg [] []
  | present {left right : Token} {inner : List Token} {args : List TypeExpr}
      (hleft : left.kind = .openAngle) (hinner : IsListed IsArg inner args)
      (hright : right.kind = .closeAngle) : IsClause IsArg (left :: (inner ++ [right])) args

/-- A type with the given arguments in its template clause. -/
inductive IsTypeOver (IsArg : List Token → TypeExpr → Prop) : List Token → TypeExpr → Prop
  | intro {leading tokens clause trailing stars ampersands : List Token} {name : QualifiedName}
      {args : List TypeExpr} {isLeading isTrailing : Bool} {pointers references : Nat}
      (hleading : IsOptional .constWord leading isLeading) (hname : IsName tokens name)
      (hclause : IsClause IsArg clause args) (htrailing : IsOptional .constWord trailing isTrailing)
      (hstars : IsRun .star stars pointers) (hampersands : IsRun .ampersand ampersands references) :
      IsTypeOver IsArg (leading ++ tokens ++ clause ++ trailing ++ stars ++ ampersands)
        (.mk name args (isLeading || isTrailing) pointers references)

/-- A type whose template clauses nest at most as deep as the bound. -/
def IsType : Nat → List Token → TypeExpr → Prop
  | 0 => IsTypeOver fun _ _ => False
  | depth + 1 => IsTypeOver (IsType depth)

/-! ### Where a sentence goes on -/

/-- The marks that the end of a type can still be followed by within the type. -/
def marksBehind : TokenKind → List TokenKind
  | .identifier => [.openAngle, .constWord, .star, .ampersand]
  | .closeAngle => [.constWord, .star, .ampersand]
  | .constWord | .star => [.star, .ampersand]
  | .ampersand => [.ampersand]
  | _ => []

/-- A `::` and an identifier come next. -/
def ScopeFollows : List Token → Prop
  | mark :: name :: _ => mark.kind = .scope ∧ name.kind = .identifier
  | _ => False

instance : DecidablePred ScopeFollows
  | [] => isFalse id
  | [_] => isFalse id
  | _ :: _ :: _ => inferInstanceAs (Decidable (_ ∧ _))

/-- The type that the tokens write goes on in those behind them. -/
def GoesOn (tokens rest : List Token) : Prop :=
  ∃ last ∈ tokens.getLast?, (∃ next ∈ rest.head?, next.kind ∈ marksBehind last.kind) ∨
    (last.kind = .identifier ∧ ScopeFollows rest)

instance (tokens rest : List Token) : Decidable (GoesOn tokens rest) :=
  inferInstanceAs (Decidable (∃ last ∈ tokens.getLast?, (∃ next ∈ rest.head?, _) ∨ _))

/-! ### Rules for the parts -/

section Parts

variable {kind : TokenKind} {tokens rest : List Token}

/-- What is optional is taken exactly if it is there. -/
lemma optional_eq_iff {present : Bool} : optional kind tokens = (present, rest) ↔
    ∃ taken, tokens = taken ++ rest ∧ IsOptional kind taken present ∧
      (taken = [] → ∀ token ∈ rest.head?, token.kind ≠ kind) := by
  constructor
  · intro h
    cases tokens with
    | nil =>
      cases h
      exact ⟨[], rfl, .absent, by simp⟩
    | cons token more =>
      by_cases hkind : token.kind = kind
      · rw [optional, if_pos hkind] at h
        cases h
        exact ⟨[token], rfl, .present hkind, by simp⟩
      · rw [optional, if_neg hkind] at h
        cases h
        exact ⟨[], rfl, .absent, by simpa using hkind⟩
  · rintro ⟨taken, rfl, htaken, hstop⟩
    cases htaken with
    | absent => exact optional_of_head (hstop rfl)
    | present hkind => simp [optional, hkind]

/-- The tokens of a kind are counted as far as they go. -/
lemma countOf_eq_iff {count : Nat} : countOf kind tokens = (count, rest) ↔
    ∃ taken, tokens = taken ++ rest ∧ IsRun kind taken count ∧
      ∀ token ∈ rest.head?, token.kind ≠ kind := by
  constructor
  · intro h
    cases h
    refine ⟨tokens.takeWhile (·.kind = kind), List.takeWhile_append_dropWhile.symm, ⟨?_, rfl⟩, ?_⟩
    · intro token hmem
      simpa using List.mem_takeWhile_imp hmem
    · intro token hmem
      have hhead :=
        List.head?_dropWhile_not (fun token : Token => decide (token.kind = kind)) tokens
      rw [Option.mem_def.1 hmem] at hhead
      simpa using hhead
  · rintro ⟨taken, rfl, htaken, hstop⟩
    have hkinds : ∀ token ∈ taken, decide (token.kind = kind) = true := by
      simpa using htaken.kind_eq
    have hfalse : ∀ token ∈ rest.head?, decide (token.kind = kind) = false := by
      simpa using hstop
    obtain ⟨htake, hdrop⟩ := takeWhile_append_of_head hkinds hfalse
    rw [countOf, htake, hdrop, htaken.length_eq]

/-- The names behind a first one are taken as far as they go. -/
lemma scopedNames_eq_iff {names : List String} : scopedNames tokens = (names, rest) ↔
    ∃ taken, tokens = taken ++ rest ∧ IsScoped taken names ∧ ¬ScopeFollows rest := by
  constructor
  · intro h
    fun_induction scopedNames tokens generalizing names with
    | case1 mark name more hkinds others last hmore ih =>
      cases h
      obtain ⟨taken, rfl, htaken, hstop⟩ := ih hmore
      exact ⟨mark :: name :: taken, rfl, .cons hkinds.1 hkinds.2 htaken, hstop⟩
    | case2 mark name more hkinds =>
      cases h
      exact ⟨[], rfl, .nil, hkinds⟩
    | case3 tokens hshort =>
      cases h
      refine ⟨[], rfl, .nil, ?_⟩
      rcases rest with _ | ⟨mark, _ | ⟨name, more⟩⟩
      · exact id
      · exact id
      · exact (hshort mark name more rfl).elim
  · rintro ⟨taken, rfl, htaken, hstop⟩
    induction htaken with
    | nil =>
      rcases rest with _ | ⟨mark, _ | ⟨name, more⟩⟩
      · rfl
      · rfl
      · exact if_neg hstop
    | @cons mark name more names hmark hname _ ih => simp [scopedNames, hmark, hname, ih]

/-- A name is taken as far as it goes. -/
lemma qualifiedName_eq_some_iff {name : QualifiedName} :
    qualifiedName.parse tokens = some (name, rest) ↔
      ∃ taken, tokens = taken ++ rest ∧ IsName taken name ∧ ¬ScopeFollows rest := by
  constructor
  · intro h
    cases tokens with
    | nil => cases h
    | cons first tokens =>
      simp only [qualifiedName, frontName.eq_def] at h
      split at h
      · next hfirst =>
        obtain ⟨more, hmore, hscoped, hstop⟩ :=
          scopedNames_eq_iff.1 (show scopedNames tokens = ((scopedNames tokens).1, _) from rfl)
        cases h
        exact ⟨first :: more, congrArg (first :: ·) hmore, .intro hfirst hscoped, hstop⟩
      · cases h
  · rintro ⟨taken, rfl, ⟨hfirst, hmore⟩, hstop⟩
    have hscoped := scopedNames_eq_iff.2 ⟨_, rfl, hmore, hstop⟩
    simp [qualifiedName, frontName, hfirst, hscoped]

/-- The marks behind a name and its arguments are taken as far as they go. -/
lemma typeMarks_eq_iff (isLeading : Bool) (name : QualifiedName) (args : List TypeExpr)
    {type : TypeExpr} : typeMarks isLeading name args tokens = (type, rest) ↔
      ∃ trailing stars ampersands, ∃ (isTrailing : Bool) (pointers references : Nat),
        tokens = trailing ++ (stars ++ (ampersands ++ rest)) ∧
        type = .mk name args (isLeading || isTrailing) pointers references ∧
        IsOptional .constWord trailing isTrailing ∧ IsRun .star stars pointers ∧
        IsRun .ampersand ampersands references ∧
        (trailing = [] → ∀ token ∈ (stars ++ (ampersands ++ rest)).head?, token.kind ≠ .constWord) ∧
        (∀ token ∈ (ampersands ++ rest).head?, token.kind ≠ .star) ∧
        ∀ token ∈ rest.head?, token.kind ≠ .ampersand := by
  constructor
  · intro h
    rcases htaken : optional .constWord tokens with ⟨isTrailing, more⟩
    rcases hpointers : countOf .star more with ⟨pointers, more'⟩
    rcases hreferences : countOf .ampersand more' with ⟨references, more''⟩
    simp only [typeMarks, htaken, hpointers, hreferences, Prod.mk.injEq] at h
    obtain ⟨rfl, rfl⟩ := h
    obtain ⟨trailing, rfl, htrailing, hconst⟩ := optional_eq_iff.1 htaken
    obtain ⟨stars, rfl, hstars, hstar⟩ := countOf_eq_iff.1 hpointers
    obtain ⟨ampersands, rfl, hampersands, hampersand⟩ := countOf_eq_iff.1 hreferences
    exact ⟨trailing, stars, ampersands, _, _, _, rfl, rfl, htrailing, hstars, hampersands, hconst,
      hstar, hampersand⟩
  · rintro ⟨trailing, stars, ampersands, isTrailing, pointers, references, rfl, rfl, htrailing,
      hstars, hampersands, hconst, hstar, hampersand⟩
    have htaken := optional_eq_iff.2 ⟨trailing, rfl, htrailing, hconst⟩
    have hpointers := countOf_eq_iff.2 ⟨stars, rfl, hstars, hstar⟩
    have hreferences := countOf_eq_iff.2 ⟨ampersands, rfl, hampersands, hampersand⟩
    simp only [typeMarks, htaken, hpointers, hreferences]

/-! ### Where a type ends -/

/-- The first token of a part, if there is one, has the kind. -/
def StartsIn (kind : TokenKind) (part : List Token) : Prop :=
  ∀ token ∈ part.head?, token.kind = kind

/-- The last token of a part, if there is one, has the kind. -/
def EndsIn (kind : TokenKind) (part : List Token) : Prop :=
  ∀ token ∈ part.getLast?, token.kind = kind

/-- Where a token of another kind comes next, the part is empty. -/
lemma StartsIn.eq_nil {part : List Token} {next : Token} (h : StartsIn kind part)
    (hnext : next ∈ (part ++ rest).head?) (hkind : next.kind ≠ kind) :
    part = [] ∧ next ∈ rest.head? := by
  cases part with
  | nil => exact ⟨rfl, hnext⟩
  | cons first part => exact absurd (h next hnext) hkind

/-- Behind a part that may be empty, tokens end as the part does or as they did before. -/
lemma EndsIn.exists_getLast {kinds : List TokenKind} {front part : List Token}
    (h : EndsIn kind part) (hfront : ∃ last ∈ front.getLast?, last.kind ∈ kinds) :
    ∃ last ∈ (front ++ part).getLast?, last.kind ∈ kind :: kinds := by
  cases hlast : part.getLast? with
  | none =>
    obtain rfl := List.getLast?_eq_none_iff.1 hlast
    obtain ⟨last, hlast, hmem⟩ := hfront
    exact ⟨last, by rwa [List.append_nil], List.mem_cons_of_mem _ hmem⟩
  | some last =>
    refine ⟨last, by simp [hlast], ?_⟩
    rw [h last hlast]
    exact List.mem_cons_self

/-- A part that does not end in a name goes on with the marks that may stand behind it; where it is
empty, the tokens before it go on. -/
lemma EndsIn.of_goesOn {front part : List Token} (h : EndsIn kind part) (hkind : kind ≠ .identifier)
    (hgoes : GoesOn (front ++ part) rest) :
    (part = [] ∧ GoesOn front rest) ∨ ∃ next ∈ rest.head?, next.kind ∈ marksBehind kind := by
  obtain ⟨last, hlast, hgoes⟩ := hgoes
  cases hpart : part.getLast? with
  | none =>
    obtain rfl := List.getLast?_eq_none_iff.1 hpart
    rw [List.append_nil] at hlast
    exact .inl ⟨rfl, last, hlast, hgoes⟩
  | some token =>
    obtain rfl : token = last := by simpa [hpart] using hlast
    rw [h token hpart] at hgoes
    exact .inr (hgoes.resolve_right fun hname => hkind hname.1)

/-- A scope stands in front only where it is at the head. -/
lemma ScopeFollows.exists_head (h : ScopeFollows tokens) :
    ∃ token ∈ tokens.head?, token.kind = .scope := by
  rcases tokens with _ | ⟨mark, _ | ⟨name, more⟩⟩
  · exact h.elim
  · exact h.elim
  · exact ⟨mark, rfl, h.1⟩

/-- A run ends in its kind. -/
lemma IsRun.endsIn {count : Nat} (h : IsRun kind tokens count) : EndsIn kind tokens :=
  fun token hmem => h.kind_eq token (List.mem_of_mem_getLast? hmem)

/-- A run starts with its kind. -/
lemma IsRun.startsIn {count : Nat} (h : IsRun kind tokens count) : StartsIn kind tokens :=
  fun token hmem => h.kind_eq token (List.mem_of_mem_head? hmem)

/-- What is optional ends in its kind. -/
lemma IsOptional.endsIn {present : Bool} (h : IsOptional kind tokens present) :
    EndsIn kind tokens := by
  cases h with
  | absent => simp [EndsIn]
  | present hkind => simpa [EndsIn] using hkind

/-- What is optional starts with its kind. -/
lemma IsOptional.startsIn {present : Bool} (h : IsOptional kind tokens present) :
    StartsIn kind tokens := by
  cases h with
  | absent => simp [StartsIn]
  | present hkind => simpa [StartsIn] using hkind

variable {IsArg : List Token → TypeExpr → Prop} {name : QualifiedName} {args : List TypeExpr}

/-- A clause ends in its right bracket. -/
lemma IsClause.endsIn (h : IsClause IsArg tokens args) : EndsIn .closeAngle tokens := by
  cases h with
  | absent => simp [EndsIn]
  | present _ _ hright =>
    intro token hmem
    rw [← List.cons_append, List.getLast?_concat] at hmem
    cases hmem
    exact hright

/-- A clause starts with its left bracket. -/
lemma IsClause.startsIn (h : IsClause IsArg tokens args) : StartsIn .openAngle tokens := by
  cases h with
  | absent => simp [StartsIn]
  | present hleft => simpa [StartsIn] using hleft

/-- Scoped names end in an identifier. -/
lemma IsScoped.endsIn {names : List String} (h : IsScoped tokens names) :
    EndsIn .identifier tokens := by
  induction h with
  | nil => simp [EndsIn]
  | @cons mark name more names _ hname _ ih =>
    cases more with
    | nil => simpa [EndsIn] using hname
    | cons next more => simpa [EndsIn] using ih

/-- A name is not empty and ends in an identifier. -/
lemma IsName.exists_getLast (h : IsName tokens name) :
    ∃ last ∈ tokens.getLast?, last.kind = .identifier := by
  obtain @⟨first, more, names, hfirst, hmore⟩ := h
  cases hlast : more.getLast? with
  | none =>
    obtain rfl := List.getLast?_eq_none_iff.1 hlast
    exact ⟨first, rfl, hfirst⟩
  | some last =>
    refine ⟨last, ?_, hmore.endsIn last hlast⟩
    rw [List.getLast?_cons, hlast]
    rfl

/-- A name starts with an identifier. -/
lemma IsName.startsIn (h : IsName tokens name) : StartsIn .identifier tokens := by
  obtain ⟨hfirst, -⟩ := h
  simpa [StartsIn] using hfirst

/-- Each part of a type ends where the rule for it does. -/
structure Stops (clause trailing stars ampersands rest : List Token) : Prop where
  scope : ¬ScopeFollows (clause ++ (trailing ++ (stars ++ (ampersands ++ rest))))
  angle : clause = [] → ∀ token ∈ (trailing ++ (stars ++ (ampersands ++ rest))).head?,
    token.kind ≠ .openAngle
  const : trailing = [] → ∀ token ∈ (stars ++ (ampersands ++ rest)).head?, token.kind ≠ .constWord
  star : ∀ token ∈ (ampersands ++ rest).head?, token.kind ≠ .star
  ampersand : ∀ token ∈ rest.head?, token.kind ≠ .ampersand

section

variable {leading clause trailing stars ampersands : List Token} {isTrailing : Bool}
  {pointers references : Nat} (hname : IsName tokens name) (hclause : IsClause IsArg clause args)
  (htrailing : IsOptional .constWord trailing isTrailing) (hstars : IsRun .star stars pointers)
  (hampersands : IsRun .ampersand ampersands references)

include hname hclause htrailing hstars hampersands

/-- If a type does not go on, each of its parts ends: what its rule would still take, the type could
go on with. -/
lemma stops_of_not_goesOn
    (h : ¬GoesOn (leading ++ tokens ++ clause ++ trailing ++ stars ++ ampersands) rest) :
    Stops clause trailing stars ampersands rest := by
  have hends₁ : ∃ last ∈ (leading ++ tokens).getLast?, last.kind ∈ [TokenKind.identifier] := by
    obtain ⟨last, hlast, hkind⟩ := hname.exists_getLast
    exact ⟨last, by simp [Option.mem_def.1 hlast], by simp [hkind]⟩
  have hends₂ := hclause.endsIn.exists_getLast hends₁
  have hends₄ := hstars.endsIn.exists_getLast (htrailing.endsIn.exists_getLast hends₂)
  have hends₅ := hampersands.endsIn.exists_getLast hends₄
  have hstop : ∀ {kinds : List TokenKind} {next : Token}, next ∈ rest.head? →
      (∃ last ∈ (leading ++ tokens ++ clause ++ trailing ++ stars ++ ampersands).getLast?,
        last.kind ∈ kinds) → ¬∀ kind ∈ kinds, next.kind ∈ marksBehind kind := by
    rintro kinds next hnext ⟨last, hlast, hmem⟩ hmarks
    exact h ⟨last, hlast, .inl ⟨next, hnext, hmarks _ hmem⟩⟩
  refine ⟨fun hscope => ?_, ?_, ?_, fun next hnext hkind => ?_, fun next hnext hkind => ?_⟩
  -- A token that no part behind starts with is the first of the rest, and those parts are empty.
  · obtain ⟨next, hnext, hkind⟩ := hscope.exists_head
    obtain ⟨rfl, hnext⟩ := hclause.startsIn.eq_nil hnext (by simp [hkind])
    obtain ⟨rfl, hnext⟩ := htrailing.startsIn.eq_nil hnext (by simp [hkind])
    obtain ⟨rfl, hnext⟩ := hstars.startsIn.eq_nil hnext (by simp [hkind])
    obtain ⟨rfl, hnext⟩ := hampersands.startsIn.eq_nil hnext (by simp [hkind])
    obtain ⟨last, hlast, hkind⟩ := hends₁
    exact h ⟨last, by simpa using hlast, .inr ⟨by simpa using hkind, hscope⟩⟩
  · rintro rfl next hnext hkind
    obtain ⟨rfl, hnext⟩ := htrailing.startsIn.eq_nil hnext (by simp [hkind])
    obtain ⟨rfl, hnext⟩ := hstars.startsIn.eq_nil hnext (by simp [hkind])
    obtain ⟨rfl, hnext⟩ := hampersands.startsIn.eq_nil hnext (by simp [hkind])
    simp only [List.append_nil] at hstop
    exact hstop hnext hends₁ (by rw [hkind]; decide)
  · rintro rfl next hnext hkind
    obtain ⟨rfl, hnext⟩ := hstars.startsIn.eq_nil hnext (by simp [hkind])
    obtain ⟨rfl, hnext⟩ := hampersands.startsIn.eq_nil hnext (by simp [hkind])
    simp only [List.append_nil] at hstop
    exact hstop hnext hends₂ (by rw [hkind]; decide)
  · obtain ⟨rfl, hnext⟩ := hampersands.startsIn.eq_nil hnext (by simp [hkind])
    simp only [List.append_nil] at hstop
    exact hstop hnext hends₄ (by rw [hkind]; decide)
  · exact hstop hnext hends₅ (by rw [hkind]; decide)

/-- If each part of a type ends, the type does not go on: the last part that is not empty would have
to. -/
lemma Stops.not_goesOn (h : Stops clause trailing stars ampersands rest) :
    ¬GoesOn (leading ++ tokens ++ clause ++ trailing ++ stars ++ ampersands) rest := by
  intro hgoes₅
  -- The parts are taken off from the last one on, as long as they are empty.
  obtain ⟨rfl, hgoes₄⟩ | ⟨next, hnext, hmem⟩ := hampersands.endsIn.of_goesOn (by decide) hgoes₅
  swap
  · exact h.ampersand next hnext (by simpa [marksBehind] using hmem)
  have hmarks : ∀ next ∈ rest.head?, next.kind ∉ [TokenKind.star, TokenKind.ampersand] := by
    intro next hnext
    simpa using ⟨h.star next hnext, h.ampersand next hnext⟩
  obtain ⟨rfl, hgoes₃⟩ | ⟨next, hnext, hmem⟩ := hstars.endsIn.of_goesOn (by decide) hgoes₄
  swap
  · exact hmarks next hnext hmem
  obtain ⟨rfl, hgoes₂⟩ | ⟨next, hnext, hmem⟩ := htrailing.endsIn.of_goesOn (by decide) hgoes₃
  swap
  · exact hmarks next hnext hmem
  have hconst : ∀ next ∈ rest.head?,
      next.kind ∉ [TokenKind.constWord, TokenKind.star, TokenKind.ampersand] := by
    intro next hnext hmem
    exact (List.mem_cons.1 hmem).elim (h.const rfl next hnext) (hmarks next hnext)
  obtain ⟨rfl, last, hlast, hgoes₁⟩ | ⟨next, hnext, hmem⟩ :=
    hclause.endsIn.of_goesOn (by decide) hgoes₂
  swap
  · exact hconst next hnext hmem
  have hkind : last.kind = .identifier := by
    obtain ⟨last', hlast', hkind⟩ := hname.exists_getLast
    obtain rfl : last' = last := by simpa [Option.mem_def.1 hlast'] using hlast
    exact hkind
  rw [hkind] at hgoes₁
  obtain ⟨next, hnext, hmem⟩ | ⟨-, hscope⟩ := hgoes₁
  · exact (List.mem_cons.1 hmem).elim (h.angle rfl next hnext) (hconst next hnext)
  · exact h.scope hscope

end

/-- Where no mark of a type comes next, no type goes on. -/
lemma EndsType.not_goesOn (h : EndsType rest) (tokens : List Token) : ¬GoesOn tokens rest := by
  rintro ⟨last, -, ⟨next, hnext, hmem⟩ | ⟨-, hscope⟩⟩
  · obtain ⟨-, hangle, hconst, hstar, hampersand⟩ := h next hnext
    unfold marksBehind at hmem
    split at hmem <;> simp [*] at hmem
  · obtain ⟨next, hnext, hkind⟩ := hscope.exists_head
    exact (h next hnext).1 hkind

end Parts

/-! ### Lists of arguments -/

section Listed

variable {α : Type} {rule : Rule α} {IsItem : List Token → α → Prop} {tokens rest : List Token}
  {values : List α}

/-- Behind a first sentence of a rule, what it reads behind commas are more of them. -/
lemma isListed_of_afterCommas (hrule : rule.Recognizes IsItem GoesOn) {taken : List Token}
    {first : α} (hfirst : IsItem taken first) (h : rule.afterCommas tokens = some (values, rest)) :
    ∃ inner, taken ++ tokens = inner ++ rest ∧ IsListed IsItem inner (first :: values) := by
  fun_induction rule.afterCommas tokens generalizing taken first values with
  | case1 =>
    cases h
    exact ⟨taken, rfl, .last hfirst⟩
  | case2 => cases h
  | case3 comma tokens hcomma second more hsecond ih =>
    obtain ⟨⟨others, last⟩, hothers, heq⟩ := Option.map_eq_some_iff.1 h
    cases heq
    obtain ⟨taken', rfl, htaken', -⟩ := hrule.1 hsecond
    obtain ⟨inner, hinner, hlisted⟩ := ih htaken' hothers
    exact ⟨taken ++ comma :: inner, by simp [hinner], .cons hfirst hcomma hlisted⟩
  | case4 =>
    cases h
    exact ⟨taken, rfl, .last hfirst⟩

/-- What a rule reads with commas between are sentences of it. -/
lemma isListed_of_listed (hrule : rule.Recognizes IsItem GoesOn)
    (h : rule.listed tokens = some (values, rest)) :
    ∃ taken, tokens = taken ++ rest ∧ IsListed IsItem taken values := by
  obtain ⟨⟨first, more⟩, hfirst, hmore⟩ := Option.bind_eq_some_iff.1 h
  obtain ⟨⟨others, last⟩, hothers, heq⟩ := Option.map_eq_some_iff.1 hmore
  cases heq
  obtain ⟨taken, rfl, htaken, -⟩ := hrule.1 hfirst
  exact isListed_of_afterCommas hrule htaken hothers

/-- A token that is no mark of a type ends it. -/
lemma endsType_of_kind {token : Token}
    (h : token.kind ∉ [TokenKind.scope, .openAngle, .constWord, .star, .ampersand])
    (rest : List Token) : EndsType (token :: rest) := by
  simpa [EndsType] using h

/-- Sentences of a rule with commas between are read up to the right bracket. -/
lemma IsListed.listed_eq (h : IsListed IsItem tokens values) (hrule : rule.Recognizes IsItem GoesOn)
    {right : Token} (hright : right.kind = .closeAngle) (rest : List Token) :
    rule.listed (tokens ++ right :: rest) = some (values, right :: rest) := by
  induction h with
  | @last tokens value hitem =>
    have hends : EndsType (right :: rest) := endsType_of_kind (by simp [hright]) rest
    have hstop := hends.not_goesOn tokens
    have hmore : rule.afterCommas (right :: rest) = some ([], right :: rest) :=
      Rule.afterCommas_of_head (by simp [hright])
    rw [Rule.listed, hrule.2 ⟨tokens, rfl, hitem, hstop⟩, Option.bind_some, hmore]
    rfl
  | @cons tokens more value values comma hitem hcomma _ ih =>
    have hends : EndsType (comma :: (more ++ right :: rest)) :=
      endsType_of_kind (by simp [hcomma]) _
    have hstop := hends.not_goesOn tokens
    rw [List.append_assoc, List.cons_append, Rule.listed, hrule.2 ⟨tokens, rfl, hitem, hstop⟩,
      Option.bind_some, Rule.afterCommas_of_comma hcomma, ← Rule.listed, ih]
    rfl

/-- Where one of the items is refused, all of them are. -/
lemma IsListed.listed_eq_none {IsWider : List Token → α → Prop}
    (h : IsListed IsWider tokens values) (hrule : rule.Recognizes IsItem GoesOn)
    (hrefuse : ∀ {tokens value}, IsWider tokens value → ¬IsItem tokens value →
      ∀ rest, rule.parse (tokens ++ rest) = none)
    (hnot : ¬IsListed IsItem tokens values) (rest : List Token) :
    rule.listed (tokens ++ rest) = none := by
  induction h with
  | @last tokens value hwider =>
    have hitem : ¬IsItem tokens value := fun hitem => hnot (.last hitem)
    rw [Rule.listed, hrefuse hwider hitem rest, Option.bind_none]
  | @cons tokens more value values comma hwider hcomma _ ih =>
    rw [List.append_assoc, List.cons_append]
    -- The first item may be fine, and then a later one is refused.
    by_cases hitem : IsItem tokens value
    · have hends : EndsType (comma :: (more ++ rest)) := endsType_of_kind (by simp [hcomma]) _
      have hstop := hends.not_goesOn tokens
      rw [Rule.listed, hrule.2 ⟨tokens, rfl, hitem, hstop⟩, Option.bind_some,
        Rule.afterCommas_of_comma hcomma, ← Rule.listed,
        ih fun hmore => hnot (.cons hitem hcomma hmore)]
      rfl
    · rw [Rule.listed, hrefuse hwider hitem, Option.bind_none]

end Listed

/-! ### Clauses -/

/-- A clause is a list of types between its brackets. -/
lemma templateClause_parse (type : Rule TypeExpr) (tokens : List Token) :
    (templateClause type).parse tokens = (expect .openAngle tokens).bind fun inner =>
      (type.listed inner).bind fun args =>
        (expect .closeAngle args.2).map fun last => (args.1, last) := by
  simp only [templateClause, Rule.listed, Option.bind_eq_bind, Option.pure_def, Option.bind_assoc,
    Option.map_eq_bind, Function.comp_def, Option.bind_some]

/-- An expected token is taken if it is there. -/
lemma expect_eq_some_iff {kind : TokenKind} {tokens rest : List Token} :
    expect kind tokens = some rest ↔ ∃ token, tokens = token :: rest ∧ token.kind = kind := by
  cases tokens with
  | nil => simp [expect]
  | cons token more =>
    by_cases hkind : token.kind = kind
    · simp [expect, hkind]
    · simp [expect, hkind]

/-- The arguments behind a name are read exactly if they are those of the clause there, or if there
is no clause. -/
def ReadsClause (clause? : Option (Rule (List TypeExpr))) (IsArg : List Token → TypeExpr → Prop) :
    Prop :=
  ∀ {tokens rest : List Token} {args : List TypeExpr},
    templateArgs clause? tokens = some (args, rest) ↔
      ∃ taken, tokens = taken ++ rest ∧ IsClause IsArg taken args ∧
        (taken = [] → ∀ token ∈ rest.head?, token.kind ≠ .openAngle)

section Clauses

variable {clause? : Option (Rule (List TypeExpr))} {type : Rule TypeExpr}
  {IsArg IsWider : List Token → TypeExpr → Prop} {tokens rest : List Token} {args : List TypeExpr}

/-- Without a bracket there is no clause to read. -/
lemma templateArgs_of_head (h : ∀ token ∈ rest.head?, token.kind ≠ .openAngle) :
    templateArgs clause? rest = some ([], rest) := by
  cases rest with
  | nil => rfl
  | cons token rest => exact if_neg fun heq => h token rfl (Option.some.inj heq)

/-- With a bracket there is a clause to read. -/
lemma templateArgs_of_openAngle {left : Token} (h : left.kind = .openAngle) (rest : List Token) :
    templateArgs clause? (left :: rest) = clause?.bind fun clause => clause.parse (left :: rest) :=
  if_pos (congrArg some h)

/-- Between brackets the arguments are read, and then the right bracket. -/
lemma templateArgs_of_brackets {left : Token} (h : left.kind = .openAngle)
    (inner : List Token) (right : Token) (rest : List Token) :
    templateArgs (some (templateClause type)) (left :: (inner ++ [right]) ++ rest) =
      (type.listed (inner ++ right :: rest)).bind fun args =>
        (expect .closeAngle args.2).map fun last => (args.1, last) := by
  have htokens : left :: (inner ++ [right]) ++ rest = left :: (inner ++ right :: rest) := by simp
  have hopen : expect .openAngle (left :: (inner ++ right :: rest)) =
      some (inner ++ right :: rest) := expect_eq_some_iff.2 ⟨left, rfl, h⟩
  rw [htokens, templateArgs_of_openAngle h, Option.bind_some, templateClause_parse, hopen,
    Option.bind_some]

/-- Without a bracket the clause is absent. -/
lemma exists_isClause_absent (h : tokens.head?.map Token.kind ≠ some .openAngle) :
    ∃ taken, tokens = taken ++ tokens ∧ IsClause IsArg taken [] ∧
      (taken = [] → ∀ token ∈ tokens.head?, token.kind ≠ .openAngle) := by
  refine ⟨[], rfl, .absent, fun _ token htoken hkind => h ?_⟩
  rw [Option.mem_def.1 htoken, Option.map_some, hkind]

/-- No clause is read where there is no rule for one. -/
lemma readsClause_none : ReadsClause none fun _ _ => False := by
  intro tokens rest args
  constructor
  · intro h
    unfold templateArgs at h
    split at h
    · cases h
    · next hhead =>
      cases h
      exact exists_isClause_absent hhead
  · rintro ⟨taken, rfl, htaken, hstop⟩
    cases htaken with
    | absent => exact templateArgs_of_head (hstop rfl)
    | present _ hinner => cases hinner <;> contradiction

/-- Clauses are read whose arguments the rule recognizes. -/
lemma readsClause_some (htype : type.Recognizes IsArg GoesOn) :
    ReadsClause (some (templateClause type)) IsArg := by
  intro tokens rest args
  constructor
  · intro h
    unfold templateArgs at h
    split at h
    · rw [Option.bind_some, templateClause_parse] at h
      obtain ⟨inner, hinner, h⟩ := Option.bind_eq_some_iff.1 h
      obtain ⟨⟨values, more⟩, hlisted, h⟩ := Option.bind_eq_some_iff.1 h
      obtain ⟨last, hlast, heq⟩ := Option.map_eq_some_iff.1 h
      cases heq
      obtain ⟨left, rfl, hleft⟩ := expect_eq_some_iff.1 hinner
      obtain ⟨right, rfl, hright⟩ := expect_eq_some_iff.1 hlast
      obtain ⟨taken, rfl, htaken⟩ := isListed_of_listed htype hlisted
      exact ⟨left :: (taken ++ [right]), by simp, .present hleft htaken hright, by simp⟩
    · next hhead =>
      cases h
      exact exists_isClause_absent hhead
  · rintro ⟨taken, rfl, htaken, hstop⟩
    cases htaken with
    | absent => exact templateArgs_of_head (hstop rfl)
    | @present left right inner args hleft hinner hright =>
      have hclose : expect .closeAngle (right :: rest) = some rest :=
        expect_eq_some_iff.2 ⟨right, rfl, hright⟩
      rw [templateArgs_of_brackets hleft, hinner.listed_eq htype hright, Option.bind_some, hclose]
      rfl

/-- The front of a type is read up to its clause. -/
lemma typeWith_parse_of_front {leading : List Token} {isLeading : Bool} {name : QualifiedName}
    (hleading : IsOptional .constWord leading isLeading) (hname : IsName tokens name)
    (hscope : ¬ScopeFollows rest) :
    (typeWith clause?).parse (leading ++ (tokens ++ rest)) =
      (templateArgs clause? rest).map fun args => typeMarks isLeading name args.1 args.2 := by
  have hfirst : ∀ token ∈ (tokens ++ rest).head?, token.kind ≠ .constWord := by
    intro token htoken hkind
    obtain ⟨rfl, -⟩ := hname.startsIn.eq_nil htoken (by simp [hkind])
    cases hname
  have htaken := optional_eq_iff.2 ⟨leading, rfl, hleading, fun _ => hfirst⟩
  have hread := qualifiedName_eq_some_iff.2 ⟨tokens, rfl, hname, hscope⟩
  simp only [typeWith, htaken, hread, Option.bind_eq_bind, Option.bind_some, Option.pure_def,
    Option.map_eq_bind, Function.comp_def]

/-- A type is recognized if its clauses are read. -/
lemma recognizes_typeWith (hclause : ReadsClause clause? IsArg) :
    (typeWith clause?).Recognizes (IsTypeOver IsArg) GoesOn := by
  intro tokens rest type
  constructor
  · intro h
    rcases hconst : optional .constWord tokens with ⟨isLeading, more⟩
    simp only [typeWith, hconst, Option.bind_eq_bind, Option.bind_eq_some_iff, Option.pure_def,
      Option.some.injEq, Prod.exists] at h
    obtain ⟨name, more', hnamed, args, more'', hread, hmarks⟩ := h
    obtain ⟨leading, rfl, hleading, -⟩ := optional_eq_iff.1 hconst
    obtain ⟨front, rfl, hname, hscope⟩ := qualifiedName_eq_some_iff.1 hnamed
    obtain ⟨clause, rfl, hargs, hangle⟩ := hclause.1 hread
    obtain ⟨trailing, stars, ampersands, isTrailing, pointers, references, rfl, rfl, htrailing,
      hstars, hampersands, hconst, hstar, hampersand⟩ := (typeMarks_eq_iff _ _ _).1 hmarks
    have hstops : Stops clause trailing stars ampersands rest :=
      ⟨hscope, hangle, hconst, hstar, hampersand⟩
    exact ⟨leading ++ front ++ clause ++ trailing ++ stars ++ ampersands, by simp,
      .intro hleading hname hargs htrailing hstars hampersands,
      hstops.not_goesOn hname hargs htrailing hstars hampersands⟩
  · rintro ⟨taken, rfl, htaken, hstop⟩
    obtain @⟨leading, front, clause, trailing, stars, ampersands, name, args, isLeading, isTrailing,
      pointers, references, hleading, hname, hargs, htrailing, hstars, hampersands⟩ := htaken
    have hstops := stops_of_not_goesOn hname hargs htrailing hstars hampersands hstop
    have hread := hclause.2 ⟨clause, rfl, hargs, hstops.angle⟩
    have hmarks := (typeMarks_eq_iff isLeading name args).2
      ⟨trailing, stars, ampersands, isTrailing, pointers, references, rfl, rfl, htrailing, hstars,
        hampersands, hstops.const, hstops.star, hstops.ampersand⟩
    simp only [List.append_assoc]
    rw [typeWith_parse_of_front hleading hname hstops.scope, hread, Option.map_some, hmarks]

end Clauses

/-! ### Types -/

/-- The rule for types takes a type off the front exactly if the type does not go on. -/
lemma recognizes_typeExpr (depth : Nat) : (typeExpr depth).Recognizes (IsType depth) GoesOn := by
  induction depth with
  | zero => exact recognizes_typeWith readsClause_none
  | succ depth ih => exact recognizes_typeWith (readsClause_some ih)

/-- A type is taken where it ends. -/
lemma IsType.parse_eq {depth : Nat} {tokens rest : List Token} {type : TypeExpr}
    (h : IsType depth tokens type) (hends : EndsType rest) :
    (typeExpr depth).parse (tokens ++ rest) = some (type, rest) :=
  (recognizes_typeExpr depth).2 ⟨tokens, rfl, h, hends.not_goesOn tokens⟩

/-- More items are allowed in a list as soon as those in it are. -/
lemma IsListed.imp {α : Type} {IsItem IsItem' : List Token → α → Prop} {tokens : List Token}
    {values : List α} (h : IsListed IsItem tokens values)
    (himp : ∀ {part value}, part.length ≤ tokens.length → IsItem part value → IsItem' part value) :
    IsListed IsItem' tokens values := by
  induction h with
  | last hitem => exact .last (himp (Nat.le_refl _) hitem)
  | cons hitem hcomma _ ih =>
    refine .cons (himp (by simp) hitem) hcomma (ih fun hle => himp (hle.trans ?_))
    simp only [List.length_append, List.length_cons]
    omega

section Types

variable {IsArg IsWider : List Token → TypeExpr → Prop} {tokens : List Token} {type : TypeExpr}

/-- More arguments are allowed in a type as soon as those in it are, and they are shorter than it
is. -/
lemma IsTypeOver.imp (h : IsTypeOver IsArg tokens type)
    (himp : ∀ {part arg}, part.length < tokens.length → IsArg part arg → IsWider part arg) :
    IsTypeOver IsWider tokens type := by
  obtain @⟨leading, front, clause, trailing, stars, ampersands, name, args, isLeading, isTrailing,
    pointers, references, hleading, hname, hargs, htrailing, hstars, hampersands⟩ := h
  refine .intro hleading hname ?_ htrailing hstars hampersands
  cases hargs with
  | absent => exact .absent
  | present hleft hinner hright =>
    refine .present hleft (hinner.imp fun hle => himp ?_) hright
    simp only [List.length_append, List.length_cons]
    omega

/-- A type is not empty. -/
lemma IsTypeOver.length_pos (h : IsTypeOver IsArg tokens type) : 0 < tokens.length := by
  obtain ⟨-, ⟨-, -⟩, -, -, -, -⟩ := h
  simp only [List.length_append, List.length_cons]
  omega

/-- A type has types as its arguments. -/
lemma IsType.isTypeOver {depth : Nat} (h : IsType depth tokens type) :
    IsTypeOver (fun part arg => ∃ depth, IsType depth part arg) tokens type := by
  cases depth with
  | zero => exact IsTypeOver.imp h fun _ => False.elim
  | succ depth => exact IsTypeOver.imp h fun _ harg => ⟨depth, harg⟩

/-- A type of one depth is a type of a greater one, and of any that there are tokens for. -/
lemma IsType.of_le {depth bound : Nat} (h : IsType depth tokens type)
    (hbound : depth ≤ bound ∨ tokens.length ≤ bound) : IsType bound tokens type := by
  induction bound generalizing depth tokens type with
  | zero =>
    have hpos := h.isTypeOver.length_pos
    obtain rfl : depth = 0 := by omega
    exact h
  | succ bound ih =>
    cases depth with
    | zero => exact IsTypeOver.imp h fun _ => False.elim
    | succ depth => exact IsTypeOver.imp h fun hshorter harg => ih harg (by omega)

end Types

/-- A type whose clause is refused is refused. -/
lemma typeWith_eq_none {clause? : Option (Rule (List TypeExpr))}
    {IsWider IsArg : List Token → TypeExpr → Prop} {tokens : List Token} {type : TypeExpr}
    (h : IsTypeOver IsWider tokens type)
    (hrefuse : ∀ {clause args}, IsClause IsWider clause args → ¬IsClause IsArg clause args →
      ∀ rest, templateArgs clause? (clause ++ rest) = none)
    (hnot : ¬IsTypeOver IsArg tokens type) (rest : List Token) :
    (typeWith clause?).parse (tokens ++ rest) = none := by
  obtain @⟨leading, front, clause, trailing, stars, ampersands, name, args, isLeading, isTrailing,
    pointers, references, hleading, hname, hargs, htrailing, hstars, hampersands⟩ := h
  have hclause : ¬IsClause IsArg clause args := fun hclause =>
    hnot (.intro hleading hname hclause htrailing hstars hampersands)
  have hscope : ∀ more, ¬ScopeFollows (clause ++ more) := by
    intro more hscope
    obtain ⟨next, hnext, hkind⟩ := hscope.exists_head
    obtain ⟨rfl, -⟩ := hargs.startsIn.eq_nil hnext (by simp [hkind])
    cases hargs
    exact hclause .absent
  simp only [List.append_assoc]
  rw [typeWith_parse_of_front hleading hname (hscope _), hrefuse hargs hclause, Option.map_none]

/-- A type that nests deeper than the rule allows is refused, whatever comes behind it. -/
lemma typeExpr_eq_none_of_deeper {depth deeper : Nat} {tokens : List Token} {type : TypeExpr}
    (h : IsType deeper tokens type) (hnot : ¬IsType depth tokens type) (rest : List Token) :
    (typeExpr depth).parse (tokens ++ rest) = none := by
  induction depth generalizing deeper tokens type rest with
  | zero =>
    refine typeWith_eq_none h.isTypeOver (fun hwider hclause rest => ?_) hnot rest
    cases hwider with
    | absent => exact absurd .absent hclause
    | present hleft => exact templateArgs_of_openAngle hleft _
  | succ depth ih =>
    refine typeWith_eq_none h.isTypeOver (fun hwider hclause rest => ?_) hnot rest
    cases hwider with
    | absent => exact absurd .absent hclause
    | present hleft hinner hright =>
      have hlisted := fun hlisted => hclause (.present hleft hlisted hright)
      have hnone := fun rest => hinner.listed_eq_none (recognizes_typeExpr depth)
        (fun ⟨_, hdeeper⟩ hitem rest => ih hdeeper hitem rest) hlisted rest
      rw [templateArgs_of_brackets hleft, hnone, Option.bind_none]

/-- A rule that may nest as deep as there are tokens may nest as deep as it likes. -/
lemma typeUpTo_parse (depth : Nat) (tokens : List Token) :
    (typeUpTo depth).parse tokens = (typeExpr depth).parse tokens := by
  have hdepth : ∀ taken rest type, tokens = taken ++ rest →
      (IsType (min depth tokens.length) taken type ↔ IsType depth taken type) := by
    rintro taken rest type rfl
    have hlength : taken.length ≤ (taken ++ rest).length := by simp
    exact ⟨fun h => h.of_le (by omega), fun h => h.of_le (by omega)⟩
  change (typeExpr (min depth tokens.length)).parse tokens = _
  refine Option.ext fun ⟨type, rest⟩ => ?_
  rw [recognizes_typeExpr _, recognizes_typeExpr _]
  refine exists_congr fun taken => and_congr_right fun htokens => ?_
  rw [hdepth taken rest type htokens]

/-- Behind the last token no type goes on. -/
lemma not_goesOn_nil (tokens : List Token) : ¬GoesOn tokens [] :=
  EndsType.not_goesOn (by simp [EndsType]) tokens

/-- The rule for types decides what is a type. -/
lemma isType_iff {depth : Nat} {tokens : List Token} {type : TypeExpr} :
    IsType depth tokens type ↔ (typeExpr depth).parse tokens = some (type, []) := by
  rw [recognizes_typeExpr depth]
  constructor
  · intro h
    exact ⟨tokens, by simp, h, not_goesOn_nil tokens⟩
  · rintro ⟨taken, htokens, h, -⟩
    rw [List.append_nil] at htokens
    rwa [htokens]

instance (depth : Nat) (tokens : List Token) (type : TypeExpr) :
    Decidable (IsType depth tokens type) :=
  decidable_of_iff _ isType_iff.symm

end Grammar

/-! ### Rules at a cursor -/

namespace Cursor

variable {α : Type} {rule : Rule α} {before left : List Token} {place : Position}

/-- A rule that recognizes sentences takes one at a cursor exactly if one is there that does not go
on. -/
lemma runRule?_between_iff {IsSentence : List Token → α → Prop}
    {GoesOn : List Token → List Token → Prop} (hrule : rule.Recognizes IsSentence GoesOn)
    {value : α} {cursor : Cursor} :
    (between before left place).runRule? rule = some (some value, cursor) ↔
      ∃ taken rest, left = taken ++ rest ∧ IsSentence taken value ∧ ¬GoesOn taken rest ∧
        cursor = between (before ++ taken) rest place := by
  constructor
  · intro h
    cases hparse : rule.parse left with
    | none =>
      rw [runRule?_between_eq_none hparse] at h
      cases h
    | some result =>
      obtain ⟨found, rest⟩ := result
      obtain ⟨taken, rfl, hsentence, hstop⟩ := hrule.1 hparse
      rw [runRule?_between_eq_some hparse] at h
      cases h
      exact ⟨taken, rest, rfl, hsentence, hstop, rfl⟩
  · rintro ⟨taken, rest, rfl, hsentence, hstop, rfl⟩
    exact runRule?_between_eq_some (hrule.2 ⟨taken, rfl, hsentence, hstop⟩)

end Cursor

open Grammar

/-- At any cursor the rule for types accepts exactly the types of its depth: it gives a type and
moves the cursor over some tokens if and only if these tokens write that type and it does not go on
behind them.  A type that nests deeper than the rule allows is refused, whatever follows it, and the
cursor stays. -/
theorem runRule?_typeUpTo (before left : List Token) (place : Position) (depth : Nat) :
    (∀ type cursor,
      (Cursor.between before left place).runRule? (typeUpTo depth) = some (some type, cursor) ↔
        ∃ taken rest, left = taken ++ rest ∧ IsType depth taken type ∧ ¬GoesOn taken rest ∧
          cursor = .between (before ++ taken) rest place) ∧
      ∀ deeper taken rest type, left = taken ++ rest → IsType deeper taken type →
        ¬IsType depth taken type →
          (Cursor.between before left place).runRule? (typeUpTo depth) =
            some (none, .between before left place) := by
  constructor
  · intro type cursor
    refine Cursor.runRule?_between_iff ?_
    intro tokens rest value
    rw [typeUpTo_parse]
    exact recognizes_typeExpr depth
  · rintro deeper taken rest type rfl hdeeper hnot
    refine Cursor.runRule?_between_eq_none ?_
    rw [typeUpTo_parse]
    exact typeExpr_eq_none_of_deeper hdeeper hnot rest

/-- The tokens of `const gd::Map<Pair<int, A*>> const*&`, all at one place. -/
def nestedType : List Token :=
  [(.constWord, "const"), (.identifier, "gd"), (.scope, "::"), (.identifier, "Map"),
    (.openAngle, "<"), (.identifier, "Pair"), (.openAngle, "<"), (.identifier, "int"),
    (.comma, ","), (.identifier, "A"), (.star, "*"), (.closeAngle, ">"), (.closeAngle, ">"),
    (.constWord, "const"), (.star, "*"), (.ampersand, "&")].map fun (kind, text) =>
      ⟨kind, text, .start⟩

/-- The type that they write. -/
def nestedTree : TypeExpr :=
  .mk ⟨["gd"], "Map"⟩
    [.mk ⟨[], "Pair"⟩ [.mk ⟨[], "int"⟩ [] false 0 0, .mk ⟨[], "A"⟩ [] false 1 0] false 0 0] true 1 1

/-- The name of a variable behind a type. -/
def variableName : List Token :=
  [⟨.identifier, "x", .start⟩]

/-- A type with two clauses, one in the other, is read at depth two up to the name behind it, and at
depth one not at all. -/
theorem runRule?_typeUpTo_nestedType :
    IsType 2 nestedType nestedTree ∧ ¬IsType 1 nestedType nestedTree ∧
      (Cursor.between [] (nestedType ++ variableName) .start).runRule? (typeUpTo (2 : Nat)) =
        some (some nestedTree, .between nestedType variableName .start) ∧
      (Cursor.between [] (nestedType ++ variableName) .start).runRule? (typeUpTo (1 : Nat)) =
        some (none, .between [] (nestedType ++ variableName) .start) := by
  have htype : IsType 2 nestedType nestedTree := by decide +kernel
  have hdeeper : ¬IsType 1 nestedType nestedTree := by decide +kernel
  have hstop : ¬GoesOn nestedType variableName := by decide +kernel
  refine ⟨htype, hdeeper, ?_, ?_⟩
  · exact ((runRule?_typeUpTo [] _ .start 2).1 _ _).2
      ⟨nestedType, variableName, rfl, htype, hstop, rfl⟩
  · exact (runRule?_typeUpTo [] _ .start 1).2 2 nestedType variableName nestedTree rfl htype hdeeper

end BindingSync.Binding
