import Mathlib.Data.List.Basic
import Mathlib.Data.List.Nodup
import Mathlib.Data.List.TakeWhile
import Mathlib.Tactic.Common
import BindingSync.Binding.ClassBlock

/-!
# Well-formed declarations

Not every declaration can be written down: a name may be no word, a depth may be negative, two
offsets may go by the same tag.  A declaration is well-formed if none of this is so.  What is
read from a text always is (`Binding.wellFormed_of_parse`): names come from the words of the
text, and the rules of the grammar see to the rest.

Every rule is given tokens whose identifiers are words, and it leaves such tokens behind.
`Rule.Gives` joins this with what a rule says about its construct, so that the statement about
a rule follows from those about its parts.
-/

namespace BindingSync

open BindingSync.Text

namespace Binding

/-! ### Well-formedness -/

/-- A word that is no keyword.  The lexer asks for a digit before it asks for a word. -/
structure IsIdentifier (text : String) : Prop where
  starts : ∃ c, text.toList.head? = some c ∧ isDigit c = false ∧ startsWord c = true
  continues : ∀ c ∈ text.toList.tail, continuesWord c = true
  kind : TokenKind.ofWord text = .identifier

end Binding

/-- All segments of the name are identifiers. -/
def QualifiedName.WellFormed (name : QualifiedName) : Prop :=
  ∀ segment ∈ name.segments, Binding.IsIdentifier segment

namespace Binding

/-- A type that can be written with template clauses nesting at most as deep as the bound. -/
def TypeExpr.FitsIn : Nat → TypeExpr → Prop
  | 0, .mk name args _ pointers references =>
    name.WellFormed ∧ args = [] ∧ 0 ≤ pointers ∧ 0 ≤ references
  | depth + 1, .mk name args _ pointers references =>
    name.WellFormed ∧ (∀ arg ∈ args, FitsIn depth arg) ∧ 0 ≤ pointers ∧ 0 ≤ references

/-- A parameter of a type that can be written, and an identifier for its name. -/
structure ParamDecl.WellFormed (param : ParamDecl) : Prop where
  type : param.type.FitsIn templateDepth
  name : ∀ name ∈ param.name, IsIdentifier name

/-- Every tag has one offset, which is not negative and not the sentinel. -/
structure AddressClause.WellFormed (clause : AddressClause) : Prop where
  distinct : (clause.map Prod.fst).Nodup
  tag : ∀ pair ∈ clause, IsIdentifier pair.1
  nonneg : ∀ pair ∈ clause, 0 ≤ pair.2
  known : ∀ pair ∈ clause, pair.2 ≠ sentinelOffset

/-- A destructor is named by a word behind a `~` and returns nothing; any other function is
named by a word and returns a type. -/
def FunctionDecl.HeadingWellFormed (decl : FunctionDecl) : Prop :=
  match decl.returnType with
  | none => decl.isDestructor = true ∧ ∃ word, decl.name = "~" ++ word ∧ IsIdentifier word
  | some type => decl.isDestructor = false ∧ type.FitsIn templateDepth ∧ IsIdentifier decl.name

/-- A function that can be written. -/
structure FunctionDecl.WellFormed (decl : FunctionDecl) : Prop where
  heading : decl.HeadingWellFormed
  params : ∀ param ∈ decl.params, param.WellFormed
  addresses : decl.addresses.WellFormed

/-- A class that can be written. -/
structure ClassDecl.WellFormed (cls : ClassDecl) : Prop where
  name : cls.name.WellFormed
  linked : ∀ tag ∈ cls.linked, IsIdentifier tag
  functions : ∀ decl ∈ cls.functions, decl.WellFormed

/-- A function is a destructor exactly if it returns nothing. -/
lemma FunctionDecl.WellFormed.isDestructor_eq {decl : FunctionDecl} (h : decl.WellFormed) :
    decl.isDestructor = decl.returnType.isNone := by
  have hheading := h.heading
  unfold HeadingWellFormed at hheading
  split at hheading
  · next hnone => rw [hheading.1, hnone]; rfl
  · next type hsome => rw [hheading.1, hsome]; rfl

/-! ### Words of a text -/

/-- The identifiers among the tokens are words. -/
def Worded (tokens : List Token) : Prop :=
  ∀ token ∈ tokens, token.kind = .identifier → IsIdentifier token.text

/-- Fewer tokens have fewer identifiers. -/
lemma Worded.of_subset {tokens rest : List Token} (h : Worded tokens) (hsub : rest ⊆ tokens) :
    Worded rest :=
  fun token hmem => h token (hsub hmem)

/-- Behind the first token the identifiers are words, too. -/
lemma Worded.tail {token : Token} {rest : List Token} (h : Worded (token :: rest)) :
    Worded rest :=
  h.of_subset (List.subset_cons_self _ _)

/-- The first token, if it is an identifier, is a word. -/
lemma Worded.head {token : Token} {rest : List Token} (h : Worded (token :: rest))
    (hkind : token.kind = .identifier) : IsIdentifier token.text :=
  h token List.mem_cons_self hkind

/-- No mark is an identifier. -/
lemma TokenKind.ofMark?_ne_identifier {c : Char} : ofMark? c ≠ some .identifier := by
  unfold ofMark?
  split <;> simp

/-- A token that is an identifier is a word. -/
lemma Piece.isIdentifier_of_token {c : Char} {text : List Char} {piece : Piece}
    (h : Piece.token c text = .ok piece) (hkind : piece.kind = some .identifier) :
    IsIdentifier (String.ofList piece.text) := by
  unfold Piece.token at h
  split at h
  · cases h
    simp at hkind
  · cases h
    simp [Piece.mark] at hkind
  · split at h
    · next kind hmark =>
      cases h
      exact absurd (hmark.trans hkind) TokenKind.ofMark?_ne_identifier
    · split at h
      · split at h
        · cases h
          simp at hkind
        · cases h
      · split at h
        · cases h
          simp [Piece.run] at hkind
        · next hdigit =>
          split at h
          · next hstarts =>
            cases h
            refine ⟨⟨c, by simp [Piece.run], by simpa using hdigit, hstarts⟩, fun d hd => ?_, ?_⟩
            · have hmem : d ∈ List.takeWhile continuesWord text := by simpa [Piece.run] using hd
              exact List.mem_takeWhile_imp hmem
            · simpa [Piece.run] using hkind
          · cases h
            simp [Piece.mark] at hkind

/-- A piece that is an identifier is a word. -/
lemma Piece.isIdentifier_of_first {c : Char} {text : List Char} {piece : Piece}
    (h : Piece.first c text = .ok piece) (hkind : piece.kind = some .identifier) :
    IsIdentifier (String.ofList piece.text) := by
  unfold Piece.first at h
  split at h
  · cases h
    simp at hkind
  · split at h
    · cases h
      simp [Piece.run] at hkind
    · split at h
      · cases h
        simp at hkind
      · cases h
    · exact isIdentifier_of_token h hkind

/-- Reading adds tokens whose identifiers are words. -/
lemma worded_of_lexFrom {read tokens : List Token} {position : Position} {text : List Char}
    (hread : Worded read) (h : lexFrom read position text = .ok tokens) : Worded tokens := by
  fun_induction lexFrom read position text with
  | case1 read position =>
    cases h
    intro token hmem hkind
    rcases List.mem_cons.1 (List.mem_reverse.1 hmem) with rfl | hmem
    · cases hkind
    · exact hread token hmem hkind
  | case2 => cases h
  | case3 read position c text piece hfirst ih =>
    refine ih (fun token hmem hkind => ?_) h
    rcases List.mem_append.1 hmem with hmem | hmem
    · obtain ⟨kind, hpiece, rfl⟩ := Option.map_eq_some_iff.1 (Option.mem_toList.1 hmem)
      exact Piece.isIdentifier_of_first hfirst (hpiece.trans (congrArg some hkind))
    · exact hread token hmem hkind

/-- The identifiers of a text are words. -/
lemma worded_of_tokenize {source : String} {tokens : List Token}
    (h : tokenize source = .ok tokens) : Worded tokens :=
  worded_of_lexFrom (by simp [Worded]) h

/-! ### What rules give -/

/-- Given tokens whose identifiers are words, the rule gives constructs with the property and
leaves such tokens behind. -/
def Rule.Gives {α : Type} (rule : Rule α) (P : α → Prop) : Prop :=
  ∀ {tokens rest : List Token} {value : α}, Worded tokens →
    rule.parse tokens = some (value, rest) → P value ∧ Worded rest

/-- What follows behind commas is of the same rule. -/
lemma Rule.Gives.afterCommas {α : Type} {rule : Rule α} {P : α → Prop} (hrule : rule.Gives P)
    {tokens rest : List Token} {values : List α} (hworded : Worded tokens)
    (h : rule.afterCommas tokens = some (values, rest)) :
    (∀ value ∈ values, P value) ∧ Worded rest := by
  fun_induction Rule.afterCommas rule tokens generalizing values with
  | case1 =>
    cases h
    exact ⟨by simp, hworded⟩
  | case2 => cases h
  | case3 token tokens _ value rest' hparse ih =>
    obtain ⟨⟨others, last⟩, hothers, heq⟩ := Option.map_eq_some_iff.1 h
    cases heq
    obtain ⟨hvalue, hrest⟩ := hrule hworded.tail hparse
    obtain ⟨hall, hlast⟩ := ih hrest hothers
    exact ⟨List.forall_mem_cons.2 ⟨hvalue, hall⟩, hlast⟩
  | case4 =>
    cases h
    exact ⟨by simp, hworded⟩

/-- A scan finds constructs of the rule. -/
lemma Rule.Gives.scan {α : Type} {rule : Rule α} {P : α → Prop} (hrule : rule.Gives P)
    {found : List α} {tokens : List Token} (hworded : Worded tokens)
    (hfound : ∀ value ∈ found, P value) : ∀ value ∈ rule.scan found tokens, P value := by
  fun_induction Rule.scan rule found tokens with
  | case1 found => exact fun value hmem => hfound value (List.mem_reverse.1 hmem)
  | case2 found token rest value rest' hparse ih =>
    obtain ⟨hvalue, hrest⟩ := hrule hworded hparse
    exact ih hrest (List.forall_mem_cons.2 ⟨hvalue, hfound⟩)
  | case3 found token rest hparse ih => exact ih hworded.tail hfound

namespace Grammar

/-- Taking an optional token leaves fewer tokens. -/
lemma worded_optional {tokens : List Token} (h : Worded tokens) (kind : TokenKind) :
    Worded (optional kind tokens).2 := by
  unfold optional
  split
  · exact h
  · split
    · exact h.tail
    · exact h

/-- Taking an expected token leaves fewer tokens. -/
lemma worded_of_expect {kind : TokenKind} {tokens rest : List Token} (h : Worded tokens)
    (hexpect : expect kind tokens = some rest) : Worded rest := by
  unfold expect at hexpect
  split at hexpect
  · cases hexpect
  · split at hexpect
    · cases hexpect
      exact h.tail
    · cases hexpect

/-- Dropping tokens leaves fewer tokens. -/
lemma worded_dropWhile {tokens : List Token} (h : Worded tokens) (p : Token → Bool) :
    Worded (tokens.dropWhile p) :=
  h.of_subset (List.dropWhile_sublist p).subset

/-- The names behind a first one are words. -/
lemma isIdentifier_of_scopedNames {tokens : List Token} (h : Worded tokens) :
    (∀ name ∈ (scopedNames tokens).1, IsIdentifier name) ∧ Worded (scopedNames tokens).2 := by
  fun_induction scopedNames tokens with
  | case1 mark name rest hkinds names last heq ih =>
    obtain ⟨hnames, hlast⟩ := ih h.tail.tail
    rw [heq] at hnames hlast
    exact ⟨List.forall_mem_cons.2 ⟨h.tail.head hkinds.2, hnames⟩, hlast⟩
  | case2 => exact ⟨by simp, h⟩
  | case3 => exact ⟨by simp, h⟩

/-- A qualified name that is read is well-formed. -/
lemma gives_qualifiedName : qualifiedName.Gives QualifiedName.WellFormed := by
  intro tokens rest name hworded h
  simp only [qualifiedName, frontName.eq_def] at h
  split at h
  · cases h
  · split at h
    · next token tail hkind =>
      cases h
      obtain ⟨hnames, hlast⟩ := isIdentifier_of_scopedNames hworded.tail
      refine ⟨?_, hlast⟩
      rw [QualifiedName.WellFormed, QualifiedName.segments_ofSegments]
      exact List.forall_mem_cons.2 ⟨hworded.head hkind, hnames⟩
    · cases h

/-- A template clause gives arguments of the rule for them. -/
lemma gives_templateClause {type : Rule TypeExpr} {P : TypeExpr → Prop} (htype : type.Gives P) :
    (templateClause type).Gives fun args => ∀ arg ∈ args, P arg := by
  intro tokens rest args hworded h
  simp only [templateClause, Option.bind_eq_bind, Option.bind_eq_some_iff, Option.pure_def,
    Option.some.injEq, Prod.exists, Prod.mk.injEq] at h
  obtain ⟨r₁, hopen, first, r₂, hfirst, others, r₃, hothers, r₄, hclose, rfl, rfl⟩ := h
  obtain ⟨hfirst', hr₂⟩ := htype (worded_of_expect hworded hopen) hfirst
  obtain ⟨hothers', hr₃⟩ := htype.afterCommas hr₂ hothers
  exact ⟨List.forall_mem_cons.2 ⟨hfirst', hothers'⟩, worded_of_expect hr₃ hclose⟩

/-- The arguments behind a name are those of a clause, or none. -/
lemma of_templateArgs {clause? : Option (Rule (List TypeExpr))} {P : TypeExpr → Prop}
    (hclause : ∀ clause ∈ clause?, clause.Gives fun args => ∀ arg ∈ args, P arg)
    {tokens rest : List Token} {args : List TypeExpr} (hworded : Worded tokens)
    (h : templateArgs clause? tokens = some (args, rest)) :
    (∀ arg ∈ args, P arg) ∧ (clause? = none → args = []) ∧ Worded rest := by
  unfold templateArgs at h
  split at h
  · obtain ⟨clause, hmem, hparse⟩ := Option.bind_eq_some_iff.1 h
    obtain ⟨hargs, hrest⟩ := hclause clause hmem hworded hparse
    exact ⟨hargs, fun hnone => absurd (hmem.symm.trans hnone) (by simp), hrest⟩
  · cases h
    exact ⟨by simp, fun _ => rfl, hworded⟩

/-- The parts of a type that is read: a well-formed name, arguments of the rule for them, and
depths that are not negative. -/
lemma gives_typeWith {clause? : Option (Rule (List TypeExpr))} {P : TypeExpr → Prop}
    (hclause : ∀ clause ∈ clause?, clause.Gives fun args => ∀ arg ∈ args, P arg) :
    (typeWith clause?).Gives fun type => type.name.WellFormed ∧ (∀ arg ∈ type.args, P arg) ∧
      (clause? = none → type.args = []) ∧ 0 ≤ type.pointers ∧ 0 ≤ type.references := by
  intro tokens rest type hworded h
  simp only [typeWith, Option.bind_eq_bind, Option.bind_eq_some_iff, Option.pure_def,
    Option.some.injEq, Prod.exists] at h
  obtain ⟨name, r₁, hname, args, r₂, hargs, hmarks⟩ := h
  obtain ⟨hname', hr₁⟩ := gives_qualifiedName (worded_optional hworded _) hname
  obtain ⟨hargs', hnone, hr₂⟩ := of_templateArgs hclause hr₁ hargs
  cases hmarks
  refine ⟨⟨hname', hargs', hnone, Int.natCast_nonneg _, Int.natCast_nonneg _⟩, ?_⟩
  exact worded_dropWhile (worded_dropWhile (worded_optional hr₂ _) _) _

/-- A type that is read can be written. -/
lemma gives_typeExpr (depth : Nat) : (typeExpr depth).Gives (TypeExpr.FitsIn depth) := by
  induction depth with
  | zero =>
    intro tokens rest type hworded h
    obtain ⟨⟨hname, -, hargs, hdepths⟩, hrest⟩ :=
      gives_typeWith (P := fun _ => True) (by simp) hworded h
    obtain ⟨name, args, isConst, pointers, references⟩ := type
    exact ⟨⟨hname, hargs rfl, hdepths⟩, hrest⟩
  | succ depth ih =>
    intro tokens rest type hworded h
    have hclause : ∀ clause ∈ some (templateClause (typeExpr depth)),
        clause.Gives fun args => ∀ arg ∈ args, arg.FitsIn depth := fun clause hmem => by
      obtain rfl := Option.mem_some_iff.1 hmem
      exact gives_templateClause ih
    obtain ⟨⟨hname, hargs, -, hdepths⟩, hrest⟩ := gives_typeWith hclause hworded h
    obtain ⟨name, args, isConst, pointers, references⟩ := type
    exact ⟨⟨hname, hargs, hdepths⟩, hrest⟩

/-- The name of a parameter that is read is a word. -/
lemma isIdentifier_of_paramName {tokens : List Token} (h : Worded tokens) :
    (∀ name ∈ (paramName tokens).1, IsIdentifier name) ∧ Worded (paramName tokens).2 := by
  unfold paramName
  split
  · exact ⟨by simp, h⟩
  · split
    · next hkind => exact ⟨by simpa using h.head hkind, h.tail⟩
    · exact ⟨by simp, h⟩

/-- A parameter that is read is well-formed. -/
lemma gives_param : param.Gives ParamDecl.WellFormed := by
  intro tokens rest value hworded h
  simp only [param, Option.bind_eq_bind, Option.bind_eq_some_iff, Option.pure_def,
    Option.some.injEq, Prod.exists, Prod.mk.injEq] at h
  obtain ⟨type, r₁, htype, rfl, rfl⟩ := h
  obtain ⟨hfits, hr₁⟩ := gives_typeExpr templateDepth hworded htype
  obtain ⟨hname, hrest⟩ := isIdentifier_of_paramName hr₁
  exact ⟨⟨hfits, hname⟩, hrest⟩

/-- The parameters up to a closing parenthesis are well-formed. -/
lemma wellFormed_of_paramsUntilClose {tokens rest : List Token} {params : List ParamDecl}
    (hworded : Worded tokens) (h : paramsUntilClose tokens = some (params, rest)) :
    (∀ param ∈ params, param.WellFormed) ∧ Worded rest := by
  fun_induction paramsUntilClose tokens generalizing params with
  | case1 tokens rest' hclose =>
    cases h
    exact ⟨by simp, worded_of_expect hworded hclose⟩
  | case2 => cases h
  | case3 tokens _ first r hfirst r' hcomma ih =>
    obtain ⟨⟨others, last⟩, hothers, heq⟩ := Option.map_eq_some_iff.1 h
    cases heq
    obtain ⟨hvalue, hr⟩ := gives_param hworded hfirst
    obtain ⟨hall, hlast⟩ := ih (worded_of_expect hr hcomma) hothers
    exact ⟨List.forall_mem_cons.2 ⟨hvalue, hall⟩, hlast⟩
  | case4 tokens _ first r hfirst _ =>
    obtain ⟨last, hclose, heq⟩ := Option.map_eq_some_iff.1 h
    cases heq
    obtain ⟨hvalue, hr⟩ := gives_param hworded hfirst
    exact ⟨by simpa using hvalue, worded_of_expect hr hclose⟩

/-- The parameters in parentheses are well-formed. -/
lemma gives_paramList : paramList.Gives fun params => ∀ param ∈ params, param.WellFormed := by
  intro tokens rest params hworded h
  obtain ⟨r, hopen, hparams⟩ := Option.bind_eq_some_iff.1 h
  exact wellFormed_of_paramsUntilClose (worded_of_expect hworded hopen) hparams

/-- An offset that is read is not negative. -/
lemma nonneg_of_offset? {token : Token} {offset : Int} (h : offset? token = some offset) :
    0 ≤ offset := by
  unfold offset? at h
  split at h
  · split at h
    · obtain ⟨n, -, rfl⟩ := Option.map_eq_some_iff.1 h
      exact Int.natCast_nonneg n
    · cases h
  · cases h

/-- The tags of address pairs are words, and their offsets are not negative. -/
lemma of_addressPairs {tokens : List Token} (h : Worded tokens) :
    (∀ pair ∈ (addressPairs tokens).1, IsIdentifier pair.1 ∧ 0 ≤ pair.2) ∧
      Worded (addressPairs tokens).2 := by
  fun_induction addressPairs tokens with
  | case1 tag number rest offset hoffset hkind pairs last heq ih =>
    obtain ⟨hpairs, hlast⟩ := ih (worded_optional h.tail.tail _)
    rw [heq] at hpairs hlast
    exact ⟨List.forall_mem_cons.2 ⟨⟨h.head hkind, nonneg_of_offset? hoffset⟩, hpairs⟩, hlast⟩
  | case2 => exact ⟨by simp, h⟩
  | case3 => exact ⟨by simp, h⟩

/-- Keeping the first entries for each tag adds none. -/
lemma mem_of_mem_keepFirst {clause : AddressClause} {pair : String × Int}
    (h : pair ∈ keepFirst clause) : pair ∈ clause := by
  induction clause with
  | nil => simp [keepFirst] at h
  | cons first rest ih =>
    rcases List.mem_cons.1 h with rfl | h
    · exact List.mem_cons_self
    · exact List.mem_cons_of_mem _ (ih (List.mem_filter.1 h).1)

/-- Keeping the first entries for each tag leaves no tag twice. -/
lemma nodup_keepFirst (clause : AddressClause) : ((keepFirst clause).map Prod.fst).Nodup := by
  induction clause with
  | nil => simp [keepFirst]
  | cons first rest ih =>
    rw [keepFirst, List.map_cons, List.nodup_cons]
    refine ⟨fun hmem => ?_, (List.filter_sublist.map Prod.fst).nodup ih⟩
    obtain ⟨pair, hpair, htag⟩ := List.mem_map.1 hmem
    have hother := (List.mem_filter.1 hpair).2
    simp [htag] at hother

/-- An address clause that is read is well-formed. -/
lemma gives_addressClause : addressClause.Gives AddressClause.WellFormed := by
  intro tokens rest clause hworded h
  obtain ⟨r, hequals, hpairs⟩ := Option.bind_eq_some_iff.1 h
  obtain ⟨hall, hrest⟩ := of_addressPairs (worded_of_expect hworded hequals)
  split at hpairs
  · cases hpairs
  · next pairs last _ heq =>
    cases hpairs
    rw [heq] at hall hrest
    have hkept : ∀ pair ∈ (keepFirst pairs).filter (·.2 != sentinelOffset),
        pair ∈ pairs ∧ pair.2 ≠ sentinelOffset := fun pair hpair => by
      obtain ⟨hmem, hknown⟩ := List.mem_filter.1 hpair
      exact ⟨mem_of_mem_keepFirst hmem, by simpa using hknown⟩
    refine ⟨⟨(List.filter_sublist.map Prod.fst).nodup (nodup_keepFirst pairs), ?_, ?_, ?_⟩, hrest⟩
    · exact fun pair hpair => (hall pair (hkept pair hpair).1).1
    · exact fun pair hpair => (hall pair (hkept pair hpair).1).2
    · exact fun pair hpair => (hkept pair hpair).2

/-- Without an address clause there are no offsets. -/
lemma wellFormed_addresses {tokens : List Token} (h : Worded tokens) :
    (addresses tokens).1.WellFormed ∧ Worded (addresses tokens).2 := by
  unfold addresses
  cases hclause : addressClause.parse tokens with
  | none => exact ⟨⟨by simp, by simp, by simp, by simp⟩, h⟩
  | some found => exact gives_addressClause h hclause

/-- Passing over a block leaves fewer tokens. -/
lemma skipBlock_subset (depth : Nat) (tokens : List Token) : skipBlock depth tokens ⊆ tokens := by
  fun_induction skipBlock depth tokens with
  | case1 => exact List.Subset.refl _
  | case2 => exact List.Subset.refl _
  | case3 depth token rest _ _ ih => exact List.subset_cons_of_subset _ ih
  | case4 depth token rest _ _ _ _ => exact List.subset_cons_self _ _
  | case5 depth token rest _ _ _ _ ih => exact List.subset_cons_of_subset _ ih
  | case6 depth token rest _ _ _ ih => exact List.subset_cons_of_subset _ ih

/-- Passing over an inline body leaves fewer tokens. -/
lemma worded_skipBody {tokens : List Token} (h : Worded tokens) : Worded (skipBody tokens) := by
  unfold skipBody
  split
  · exact h.of_subset (skipBlock_subset 0 tokens)
  · exact h

/-- Taking a dispatch keyword leaves fewer tokens. -/
lemma worded_dispatch {tokens : List Token} (h : Worded tokens) : Worded (dispatch tokens).2 := by
  unfold dispatch
  split
  · exact h
  · split
    · exact h.tail
    · exact h

/-- A heading that is read is well-formed. -/
lemma of_heading {tokens rest : List Token} {found : Heading} (hworded : Worded tokens)
    (h : heading tokens = some (found, rest)) :
    (match found.returnType with
      | none => ∃ word, found.name = "~" ++ word ∧ IsIdentifier word
      | some type => type.FitsIn templateDepth ∧ IsIdentifier found.name) ∧ Worded rest := by
  have htyped : ∀ {tokens}, Worded tokens → heading.typed tokens = some (found, rest) →
      (match found.returnType with
        | none => ∃ word, found.name = "~" ++ word ∧ IsIdentifier word
        | some type => type.FitsIn templateDepth ∧ IsIdentifier found.name) ∧ Worded rest := by
    intro tokens hworded h
    simp only [heading.typed, Option.bind_eq_bind, Option.bind_eq_some_iff, Prod.exists] at h
    obtain ⟨type, r, htype, hname⟩ := h
    obtain ⟨hfits, hr⟩ := gives_typeExpr templateDepth hworded htype
    obtain ⟨hword, hlast⟩ := isIdentifier_of_paramName hr
    split at hname
    · next heq =>
      cases hname
      rw [heq] at hword hlast
      exact ⟨⟨hfits, hword _ rfl⟩, hlast⟩
    · cases hname
  unfold heading at h
  split at h
  · split at h
    · next hkinds =>
      cases h
      exact ⟨⟨_, rfl, hworded.tail.head hkinds.2⟩, hworded.tail.tail⟩
    · exact htyped hworded h
  · exact htyped hworded h

/-- A function that is read is well-formed. -/
lemma gives_function : function.Gives FunctionDecl.WellFormed := by
  intro tokens rest decl hworded h
  simp only [function, Option.bind_eq_bind, Option.bind_eq_some_iff, Option.pure_def,
    Option.some.injEq, Prod.exists, Prod.mk.injEq] at h
  obtain ⟨found, r₁, hheading, params, r₂, hparams, rfl, rfl⟩ := h
  obtain ⟨hfound, hr₁⟩ := of_heading (worded_dispatch hworded) hheading
  obtain ⟨hparams', hr₂⟩ := gives_paramList hr₁ hparams
  obtain ⟨haddresses, hr₃⟩ := wellFormed_addresses hr₂
  refine ⟨⟨?_, hparams', haddresses⟩, worded_skipBody hr₃⟩
  obtain ⟨name, returnType⟩ := found
  cases returnType with
  | none => exact ⟨rfl, hfound⟩
  | some type => exact ⟨rfl, hfound⟩

/-- The platforms that an attribute block links are words. -/
lemma of_linkedIn {inLink : Bool} {platforms result : List String} {tokens rest : List Token}
    (hworded : Worded tokens) (hplatforms : ∀ tag ∈ platforms, IsIdentifier tag)
    (h : linkedIn inLink platforms tokens = some (result, rest)) :
    (∀ tag ∈ result, IsIdentifier tag) ∧ Worded rest := by
  fun_induction linkedIn inLink platforms tokens with
  | case1 => cases h
  | case2 platforms token rest hkind ih => exact ih hworded.tail hplatforms h
  | case3 platforms token rest _ hkind ih =>
    refine ih hworded.tail (fun tag hmem => ?_) h
    rcases List.mem_append.1 hmem with hmem | hmem
    · exact hplatforms tag hmem
    · obtain rfl := List.mem_singleton.1 hmem
      exact hworded.head hkind
  | case4 platforms token rest _ _ ih => exact ih hworded.tail hplatforms h
  | case5 => cases h
  | case6 _ platforms token _ next rest' _ =>
    cases h
    exact ⟨hplatforms, hworded.tail.tail⟩
  | case7 _ platforms token _ next rest' _ _ ih => exact ih hworded.tail.tail hplatforms h
  | case8 _ platforms token _ next rest' _ _ ih => exact ih hworded.tail hplatforms h

/-- The platforms of an attribute block are words. -/
lemma gives_linkAttribute : linkAttribute.Gives fun linked => ∀ tag ∈ linked, IsIdentifier tag := by
  intro tokens rest linked hworded h
  simp only [linkAttribute, Option.bind_eq_bind, Option.bind_eq_some_iff] at h
  obtain ⟨r₁, hfirst, r₂, hsecond, hlinked⟩ := h
  exact of_linkedIn (worded_of_expect (worded_of_expect hworded hfirst) hsecond) (by simp) hlinked

/-- The name in a class header is well-formed. -/
lemma gives_classHeader : classHeader.Gives QualifiedName.WellFormed := by
  intro tokens rest name hworded h
  simp only [classHeader, Option.bind_eq_bind, Option.bind_eq_some_iff, Option.pure_def,
    Option.some.injEq, Prod.exists, Prod.mk.injEq] at h
  obtain ⟨r₁, hclass, found, r₂, hname, r₃, hopen, rfl, rfl⟩ := h
  obtain ⟨hfound, hr₂⟩ := gives_qualifiedName (worded_of_expect hworded hclass) hname
  refine ⟨hfound, worded_of_expect ?_ hopen⟩
  unfold skipBases
  split
  · next hcolon => exact worded_dropWhile (worded_of_expect hr₂ hcolon) _
  · exact hr₂

end Grammar

/-! ### Classes -/

/-- The start of a class block names its class and the linked platforms by words. -/
lemma BlockStart.of_behind {linked : List String} {tokens rest : List Token} {start : BlockStart}
    (hworded : Worded tokens) (h : behind linked tokens = some (start, rest)) :
    start.linked = linked ∧ start.name.WellFormed ∧ Worded rest := by
  simp only [behind, Option.bind_eq_bind, Option.bind_eq_some_iff, Option.pure_def,
    Option.some.injEq, Prod.exists, Prod.mk.injEq] at h
  obtain ⟨token, -, name, r, hheader, rfl, rfl⟩ := h
  obtain ⟨hname, hrest⟩ := Grammar.gives_classHeader hworded hheader
  exact ⟨rfl, hname, hrest⟩

/-- The start of a class block is well-formed, with or without an attribute. -/
lemma Grammar.gives_blockStart : blockStart.Gives fun start =>
    start.name.WellFormed ∧ ∀ tag ∈ start.linked, IsIdentifier tag := by
  intro tokens rest start hworded h
  simp only [blockStart] at h
  split at h
  · next linked r hattribute =>
    obtain ⟨hlinked, hr⟩ := gives_linkAttribute hworded hattribute
    obtain ⟨rfl, hname, hrest⟩ := BlockStart.of_behind hr h
    exact ⟨⟨hname, hlinked⟩, hrest⟩
  · obtain ⟨hlinked, hname, hrest⟩ := BlockStart.of_behind hworded h
    exact ⟨⟨hname, by simp [hlinked]⟩, hrest⟩

/-- The tokens of a body, and those behind it, are tokens of the text. -/
lemma Grammar.body_subset {tokens inside rest : List Token}
    (h : body tokens = some (inside, rest)) :
    inside ⊆ tokens ∧ rest ⊆ tokens := by
  fun_induction body tokens generalizing inside with
  | case1 => cases h
  | case2 =>
    cases h
    exact ⟨List.nil_subset _, List.subset_cons_self _ _⟩
  | case3 token tail _ ih =>
    obtain ⟨⟨inner, last⟩, hinner, heq⟩ := Option.map_eq_some_iff.1 h
    cases heq
    obtain ⟨hinside, hrest⟩ := ih hinner
    exact ⟨List.cons_subset_cons _ hinside, List.subset_cons_of_subset _ hrest⟩

/-- Classes that are read are well-formed. -/
lemma wellFormed_of_classesIn {found classes : List ClassDecl} {tokens : List Token}
    (hworded : Worded tokens) (hfound : ∀ cls ∈ found, cls.WellFormed)
    (h : classesIn found tokens = .ok classes) : ∀ cls ∈ classes, cls.WellFormed := by
  fun_induction classesIn found tokens with
  | case1 found =>
    cases h
    exact fun cls hmem => hfound cls (List.mem_reverse.1 hmem)
  | case2 found token rest start rest' hstart inside last hbody ih =>
    obtain ⟨⟨hname, hlinked⟩, hrest⟩ := Grammar.gives_blockStart hworded hstart
    obtain ⟨hinside, hlast⟩ := Grammar.body_subset hbody
    refine ih (hrest.of_subset hlast) (List.forall_mem_cons.2 ⟨?_, hfound⟩) h
    exact ⟨hname, hlinked, Grammar.gives_function.scan (hrest.of_subset hinside) (by simp)⟩
  | case3 => cases h
  | case4 found token rest hstart linked rest' hattribute ih =>
    exact ih (Grammar.gives_linkAttribute hworded hattribute).2 hfound h
  | case5 found token rest hstart hattribute ih => exact ih hworded.tail hfound h

/-- Whatever is read from a text is well-formed. -/
theorem wellFormed_of_parse {source : String} {classes : List ClassDecl}
    (h : parse source = .ok classes) : ∀ cls ∈ classes, cls.WellFormed := by
  unfold parse at h
  split at h
  · cases h
  · next tokens htokens =>
    have hworded := (worded_of_tokenize htokens).of_subset (List.dropLast_subset tokens)
    exact wellFormed_of_classesIn hworded (by simp) h

end Binding

end BindingSync
