import BindingSync.Proofs.Binding.Printer
import BindingSync.Proofs.Text.Digits

/-!
# Reading types

Every rule of the grammar takes the tokens of a well-formed construct off the front and gives
the construct back, whatever comes behind it, as long as that cannot be taken for a part of the
construct.  For a type this means that no mark of a type follows (`Grammar.EndsType`).  Types
nest in their template clauses, so the rule for types goes through by induction on the depth that
the clauses may have.
-/

namespace BindingSync

open BindingSync.Text

/-- A name is made of its segments in one way only. -/
lemma QualifiedName.segments_injective {a b : QualifiedName} (h : a.segments = b.segments) :
    a = b := by
  obtain ⟨hscopes, hbase⟩ := List.append_inj' h rfl
  cases a
  cases b
  simp_all

namespace Binding

open BindingSync.Binding.Lexeme

/-! ### Loops over rules -/

namespace Rule

variable {α : Type} {rule : Rule α} {value : α} {token : Token} {tokens rest : List Token}

/-- Behind a comma the rule is applied once more. -/
lemma afterCommas_cons (hcomma : token.kind = .comma)
    (h : rule.parse tokens = some (value, rest)) :
    rule.afterCommas (token :: tokens) =
      (rule.afterCommas rest).map fun (values, last) => (value :: values, last) := by
  rw [afterCommas_of_comma hcomma, h]
  rfl

/-- Without a comma no more constructs follow. -/
lemma afterCommas_of_head (h : ∀ token ∈ tokens.head?, token.kind ≠ .comma) :
    rule.afterCommas tokens = some ([], tokens) := by
  cases tokens with
  | nil => rw [afterCommas]
  | cons token rest => rw [afterCommas, if_neg (h token rfl)]

/-- A scan takes a construct where the rule matches. -/
lemma scan_of_parse {found : List α} (h : rule.parse tokens = some (value, rest)) :
    rule.scan found tokens = rule.scan (value :: found) rest := by
  cases tokens with
  | nil => exact absurd (rule.shorter h) (Nat.not_lt_zero _)
  | cons token tokens => rw [scan_cons, h]

/-- A scan passes over a token where the rule does not match. -/
lemma scan_of_none {found : List α} (h : rule.parse (token :: rest) = none) :
    rule.scan found (token :: rest) = rule.scan found rest := by
  rw [scan_cons, h]

end Rule

namespace Grammar

/-! ### Tokens at the front -/

/-- An expected token is taken. -/
@[simp] lemma expect_cons (kind : TokenKind) (text : String) (position : Position)
    (rest : List Token) : expect kind (⟨kind, text, position⟩ :: rest) = some rest := by
  simp [expect]

/-- A token of another kind is not taken. -/
lemma expect_of_ne {kind : TokenKind} {token : Token} (h : token.kind ≠ kind)
    (rest : List Token) : expect kind (token :: rest) = none := by
  simp [expect, h]

/-- An optional token that is there is taken. -/
@[simp] lemma optional_cons (kind : TokenKind) (text : String) (position : Position)
    (rest : List Token) : optional kind (⟨kind, text, position⟩ :: rest) = (true, rest) := by
  simp [optional]

/-- An optional token that is not there is not taken. -/
lemma optional_of_head {kind : TokenKind} {tokens : List Token}
    (h : ∀ token ∈ tokens.head?, token.kind ≠ kind) : optional kind tokens = (false, tokens) := by
  cases tokens with
  | nil => rfl
  | cons token rest =>
    have hkind : token.kind ≠ kind := h token rfl
    simp [optional, hkind]

/-- Repeated marks are counted, up to a token that is no such mark. -/
lemma countOf_replicate {kind : TokenKind} {c : Char} (n : Nat) {rest : List Token}
    (hrest : ∀ token ∈ rest.head?, token.kind ≠ kind) (position : Position) :
    countOf kind (tokensAt position (List.replicate n (mark kind c)) ++ rest) = (n, rest) := by
  have hmarks : ∀ token ∈ tokensAt position (List.replicate n (mark kind c)),
      decide (token.kind = kind) = true := by
    induction n generalizing position with
    | zero => simp
    | succ n ih =>
      rw [List.replicate_succ, tokensAt_token]
      exact List.forall_mem_cons.2 ⟨by simp, ih _⟩
  have hrest' : ∀ token ∈ rest.head?, decide (token.kind = kind) = false :=
    fun token htoken => decide_eq_false (hrest token htoken)
  obtain ⟨htake, hdrop⟩ := takeWhile_append_of_head hmarks hrest'
  have hlength : (tokensAt position (List.replicate n (mark kind c))).length = n := by
    clear hmarks htake hdrop
    induction n generalizing position with
    | zero => rfl
    | succ n ih => rw [List.replicate_succ, tokensAt_token, List.length_cons, ih]
  rw [countOf, htake, hdrop, hlength]

/-! ### Names and types -/

/-- Nothing that belongs to a type comes next. -/
def EndsType (rest : List Token) : Prop :=
  ∀ token ∈ rest.head?, token.kind ≠ .scope ∧ token.kind ≠ .openAngle ∧
    token.kind ≠ .constWord ∧ token.kind ≠ .star ∧ token.kind ≠ .ampersand

/-- The segments behind a first one are read up to a token that is no scope mark. -/
lemma scopedNames_tokensAt (segments : List String) {rest : List Token}
    (hrest : ∀ token ∈ rest.head?, token.kind ≠ .scope) (position : Position) :
    scopedNames (tokensAt position (segments.flatMap fun segment =>
      [token .scope "::", token .identifier segment]) ++ rest) = (segments, rest) := by
  induction segments generalizing position with
  | nil =>
    cases rest with
    | nil => rfl
    | cons first rest =>
      have hkind : first.kind ≠ .scope := hrest first rfl
      cases rest with
      | nil => rfl
      | cons second rest => simp [scopedNames, hkind]
  | cons segment segments ih => simp [scopedNames, ih]

/-- A name is read up to a token that is no scope mark. -/
lemma qualifiedName_tokensAt (name : QualifiedName) {rest : List Token}
    (hrest : ∀ token ∈ rest.head?, token.kind ≠ .scope) (position : Position) :
    qualifiedName.parse (tokensAt position (ofSegments name.segments) ++ rest) =
      some (name, rest) := by
  cases hsegments : name.segments with
  | nil => exact absurd hsegments name.segments_ne_nil
  | cons first others =>
    have hname : QualifiedName.ofSegments first others = name :=
      QualifiedName.segments_injective (by rw [QualifiedName.segments_ofSegments, hsegments])
    have hscoped := scopedNames_tokensAt others hrest (position.afterAll first.toList)
    simp only [ofSegments, separated, List.map_cons, List.flatMap_map, List.cons_append,
      List.nil_append, tokensAt_token, qualifiedName, frontName, if_true]
    rw [hscoped, hname]

/-- What a rule reads whatever comes behind is read behind commas, up to a token that is no
comma. -/
lemma afterCommas_tokensAt {α : Type} {rule : Rule α} {lexemes : α → List Lexeme} {values : List α}
    (hrule : ∀ value ∈ values, ∀ position rest, EndsType rest →
      rule.parse (tokensAt position (lexemes value) ++ rest) = some (value, rest))
    {rest : List Token} (hends : EndsType rest)
    (hrest : ∀ token ∈ rest.head?, token.kind ≠ .comma) (position : Position) :
    rule.afterCommas (tokensAt position (values.flatMap fun value => comma ++ lexemes value) ++
      rest) = some (values, rest) := by
  induction values generalizing position with
  | nil => exact Rule.afterCommas_of_head hrest
  | cons value others ih =>
    obtain ⟨hvalue, hothers⟩ := List.forall_mem_cons.1 hrule
    have hnext : ∀ position, EndsType (tokensAt position
        (others.flatMap fun value => comma ++ lexemes value) ++ rest) := by
      intro position
      cases others with
      | nil => exact hends
      | cons other others => simp [EndsType, comma]
    have hparse := hvalue (position.afterAll [',', ' ']) _
      (hnext ((position.afterAll [',', ' ']).afterAll (textOf (lexemes value))))
    simp only [List.flatMap_cons, tokensAt_append, comma, tokensAt_token, tokensAt_blank,
      List.cons_append, List.nil_append, List.append_assoc] at hparse ih ⊢
    rw [Rule.afterCommas_cons rfl (by simpa [text] using hparse), ih hothers]
    rfl

/-- A template clause is read with its arguments. -/
lemma templateClause_tokensAt {rule : Rule TypeExpr} {first : TypeExpr} {others : List TypeExpr}
    (hrule : ∀ arg ∈ first :: others, ∀ position rest, EndsType rest →
      rule.parse (tokensAt position (ofType arg) ++ rest) = some (arg, rest))
    (position : Position) (rest : List Token) :
    (templateClause rule).parse
      (tokensAt position (ofClause (ofTypes (first :: others))) ++ rest) =
      some (first :: others, rest) := by
  obtain ⟨hfirst, hothers⟩ := List.forall_mem_cons.1 hrule
  have hends : ∀ position (close : Token), close.kind = .closeAngle → EndsType
      (tokensAt position (others.flatMap fun arg => comma ++ ofType arg) ++ close :: rest) := by
    intro position close hkind
    cases others with
    | nil => simp [EndsType, hkind]
    | cons other others => simp [EndsType, comma]
  have hargs : ∀ position (close : Token), close.kind = .closeAngle → rule.afterCommas
      (tokensAt position (others.flatMap fun arg => comma ++ ofType arg) ++ close :: rest) =
        some (others, close :: rest) := fun position close hkind =>
    afterCommas_tokensAt hothers (by simp [EndsType, hkind]) (by simp [hkind]) position
  rw [ofTypes_eq_map, ofClause, if_neg (by simp)]
  simp only [List.map_cons, separated, List.flatMap_map, List.cons_append, tokensAt_token,
    tokensAt_nil, tokensAt_append, List.nil_append, List.append_assoc, templateClause, expect_cons,
    Option.bind_eq_bind, Option.bind_some]
  rw [hfirst _ _ (hends _ _ rfl), Option.bind_some, hargs _ _ rfl, Option.bind_some, expect_cons]
  rfl

/-- The head of repeated marks is such a mark, or the head of what is behind them. -/
lemma head_replicate {P : Token → Prop} {kind : TokenKind} {c : Char} {rest : List Token}
    (hmark : ∀ position, P ⟨kind, String.singleton c, position⟩)
    (hrest : ∀ token ∈ rest.head?, P token) (n : Nat) (position : Position) :
    ∀ token ∈ (tokensAt position (List.replicate n (mark kind c)) ++ rest).head?, P token := by
  cases n with
  | zero => exact hrest
  | succ n => simpa [List.replicate_succ] using hmark position

/-- The marks of a type are read up to a token that cannot belong to the type. -/
lemma typeMarks_tokensAt (isConst : Bool) (name : QualifiedName) (args : List TypeExpr)
    {pointers references : Int} (hpointers : 0 ≤ pointers) (hreferences : 0 ≤ references)
    {rest : List Token} (hrest : EndsType rest) (position position' : Position) :
    typeMarks isConst name args
        (tokensAt position (List.replicate pointers.toNat (mark .star '*')) ++
      (tokensAt position' (List.replicate references.toNat (mark .ampersand '&')) ++ rest)) =
      (.mk name args isConst pointers references, rest) := by
  have hconst : ∀ token ∈ rest.head?, token.kind ≠ .constWord :=
    fun token htoken => (hrest token htoken).2.2.1
  have hstar : ∀ token ∈ rest.head?, token.kind ≠ .star :=
    fun token htoken => (hrest token htoken).2.2.2.1
  have hampersand : ∀ token ∈ rest.head?, token.kind ≠ .ampersand :=
    fun token htoken => (hrest token htoken).2.2.2.2
  have hfront : ∀ token ∈ (tokensAt position (List.replicate pointers.toNat (mark .star '*')) ++
      (tokensAt position' (List.replicate references.toNat (mark .ampersand '&')) ++ rest)).head?,
      token.kind ≠ .constWord :=
    head_replicate (by simp) (head_replicate (by simp) hconst _ _) _ _
  have hmiddle : ∀ token ∈ (tokensAt position'
      (List.replicate references.toNat (mark .ampersand '&')) ++ rest).head?, token.kind ≠ .star :=
    head_replicate (by simp) hstar _ _
  rw [typeMarks, optional_of_head hfront]
  simp only [countOf_replicate _ hmiddle, countOf_replicate _ hampersand, Bool.or_false,
    Int.toNat_of_nonneg hpointers, Int.toNat_of_nonneg hreferences]

/-- The arguments behind a name are read with their clause. -/
lemma templateArgs_tokensAt {clause? : Option (Rule (List TypeExpr))} {args : List TypeExpr}
    (hnone : clause? = none → args = [])
    (hclause : ∀ clause ∈ clause?, args ≠ [] → ∀ position rest,
      clause.parse (tokensAt position (ofClause (ofTypes args)) ++ rest) = some (args, rest))
    {rest : List Token} (hrest : ∀ token ∈ rest.head?, token.kind ≠ .openAngle)
    (position : Position) :
    templateArgs clause? (tokensAt position (ofClause (ofTypes args)) ++ rest) =
      some (args, rest) := by
  cases args with
  | nil =>
    have hhead : ¬rest.head?.map Token.kind = some .openAngle := by
      intro heq
      obtain ⟨token, htoken, hkind⟩ := Option.map_eq_some_iff.1 heq
      exact hrest token htoken hkind
    simp [templateArgs, ofTypes, ofClause, hhead]
  | cons arg args =>
    cases clause? with
    | none => simp at hnone
    | some clause =>
      have hparse := hclause clause rfl (by simp) position rest
      rw [templateArgs, if_pos, Option.bind_some, hparse]
      simp [ofTypes, ofClause]

/-- The head of a template clause is its bracket, or the head of what is behind it. -/
lemma head_clause {P : Token → Prop} {rest : List Token}
    (hopen : ∀ position, P ⟨.openAngle, String.singleton '<', position⟩)
    (hrest : ∀ token ∈ rest.head?, P token) (args : List (List Lexeme)) (position : Position) :
    ∀ token ∈ (tokensAt position (ofClause args) ++ rest).head?, P token := by
  unfold ofClause
  split
  · exact hrest
  · simpa using hopen position

/-- The head of a name is an identifier. -/
lemma head_segments (name : QualifiedName) (position : Position) (rest : List Token) :
    ∀ token ∈ (tokensAt position (ofSegments name.segments) ++ rest).head?,
      token.kind = .identifier := by
  cases hsegments : name.segments with
  | nil => exact absurd hsegments name.segments_ne_nil
  | cons first others => simp [ofSegments, separated]

/-- A type is read from its parts. -/
lemma typeWith_tokensAt {clause? : Option (Rule (List TypeExpr))} {name : QualifiedName}
    {args : List TypeExpr} {isConst : Bool} {pointers references : Int}
    (hnone : clause? = none → args = [])
    (hclause : ∀ clause ∈ clause?, args ≠ [] → ∀ position rest,
      clause.parse (tokensAt position (ofClause (ofTypes args)) ++ rest) = some (args, rest))
    (hpointers : 0 ≤ pointers) (hreferences : 0 ≤ references) {rest : List Token}
    (hrest : EndsType rest) (position : Position) :
    (typeWith clause?).parse
      (tokensAt position (ofType (.mk name args isConst pointers references)) ++ rest) =
      some (.mk name args isConst pointers references, rest) := by
  have hmarks : ∀ P : Token → Prop, (∀ position, P ⟨.star, "*", position⟩) →
      (∀ position, P ⟨.ampersand, "&", position⟩) → (∀ token ∈ rest.head?, P token) →
      ∀ position position', ∀ token ∈ (tokensAt position
        (List.replicate pointers.toNat (mark .star '*')) ++ (tokensAt position'
          (List.replicate references.toNat (mark .ampersand '&')) ++ rest)).head?, P token :=
    fun P hstar hampersand hhead position position' =>
      head_replicate hstar (head_replicate hampersand hhead _ _) _ _
  have hangle := hmarks (fun token => token.kind ≠ .openAngle) (by simp) (by simp)
    fun token htoken => (hrest token htoken).2.1
  have hscope : ∀ args position position' position'',
      ∀ token ∈ (tokensAt position (ofClause args) ++
        (tokensAt position' (List.replicate pointers.toNat (mark .star '*')) ++
          (tokensAt position'' (List.replicate references.toNat (mark .ampersand '&')) ++
            rest))).head?,
        token.kind ≠ .scope := fun args position position' position'' =>
    head_clause (by simp) (hmarks _ (by simp) (by simp)
      (fun token htoken => (hrest token htoken).1) _ _) _ _
  have hname : ∀ isConst position,
      ((qualifiedName.parse (tokensAt position (ofSegments name.segments) ++
        (tokensAt (position.afterAll (textOf (ofSegments name.segments)))
          (ofClause (ofTypes args) ++ (List.replicate pointers.toNat (mark .star '*') ++
            List.replicate references.toNat (mark .ampersand '&'))) ++ rest))).bind fun found =>
        (templateArgs clause? found.2).bind fun given =>
          some (typeMarks isConst found.1 given.1 given.2)) =
      some (.mk name args isConst pointers references, rest) := by
    intro isConst position
    simp only [tokensAt_append, List.append_assoc]
    rw [qualifiedName_tokensAt _ (hscope _ _ _ _), Option.bind_some,
      templateArgs_tokensAt hnone hclause (hangle _ _), Option.bind_some,
      typeMarks_tokensAt _ _ _ hpointers hreferences hrest]
  rw [typeWith, ofType]
  cases isConst with
  | true =>
    have hread := hname true (position.afterAll "const ".toList)
    simp only [tokensAt_append, List.append_assoc] at hread
    simpa using hread
  | false =>
    have hread := hname false position
    have hfirst : ∀ rest, optional .constWord
        (tokensAt position (ofSegments name.segments) ++ rest) =
          (false, tokensAt position (ofSegments name.segments) ++ rest) := fun rest =>
      optional_of_head fun token htoken => by rw [head_segments _ _ _ token htoken]; decide
    simp only [tokensAt_append, List.append_assoc] at hread
    simpa [hfirst] using hread

/-- A type that can be written is read. -/
lemma typeExpr_tokensAt {depth : Nat} {type : TypeExpr} (h : type.FitsIn depth)
    (position : Position) {rest : List Token} (hrest : EndsType rest) :
    (typeExpr depth).parse (tokensAt position (ofType type) ++ rest) = some (type, rest) := by
  induction depth generalizing type position rest with
  | zero =>
    obtain ⟨name, args, isConst, pointers, references⟩ := type
    obtain ⟨hname, rfl, hpointers, hreferences⟩ := h
    exact typeWith_tokensAt (fun _ => rfl) (by simp) hpointers hreferences hrest position
  | succ depth ih =>
    obtain ⟨name, args, isConst, pointers, references⟩ := type
    obtain ⟨hname, hargs, hpointers, hreferences⟩ := h
    refine typeWith_tokensAt (by simp) (fun clause hclause hne position rest => ?_) hpointers
      hreferences hrest position
    obtain rfl := Option.mem_some_iff.1 hclause
    cases args with
    | nil => exact absurd rfl hne
    | cons first others =>
      exact templateClause_tokensAt (fun arg hmem position rest hends =>
        ih (hargs arg hmem) position hends) position rest

/-- A token that is neither a `const` nor an identifier starts no type. -/
lemma typeExpr_of_head {token : Token} (hconst : token.kind ≠ .constWord)
    (hidentifier : token.kind ≠ .identifier) (depth : Nat) (rest : List Token) :
    (typeExpr depth).parse (token :: rest) = none := by
  have hoptional : optional .constWord (token :: rest) = (false, token :: rest) :=
    optional_of_head fun first hfirst => by
      obtain rfl := Option.mem_some_iff.1 hfirst
      exact hconst
  cases depth <;> simp [typeExpr, typeWith, hoptional, qualifiedName, frontName, hidentifier]

/-- The head of a type is a `const` or an identifier. -/
lemma head_type (type : TypeExpr) (position : Position) (rest : List Token) :
    ∀ token ∈ (tokensAt position (ofType type) ++ rest).head?,
      token.kind = .constWord ∨ token.kind = .identifier := by
  obtain ⟨name, args, isConst, pointers, references⟩ := type
  intro token htoken
  rw [ofType] at htoken
  cases isConst with
  | true => exact .inl (by simp at htoken; rw [← htoken])
  | false =>
    rw [if_neg (by simp), List.nil_append, tokensAt_append, List.append_assoc] at htoken
    exact .inr (head_segments _ _ _ token htoken)

end Grammar

end Binding

end BindingSync
