import BindingSync.Proofs.Binding.Functions

/-!
# Reading what was written

A class is given back by its rules, and its block is found by the braces: no brace but the
outer ones stands in it.  With the lexer taking the lexemes apart, `parse_render` is the result:
well-formed classes can be written and read again.
-/

namespace BindingSync

open BindingSync.Text

namespace Binding

open BindingSync.Binding.Lexeme

namespace Grammar

/-! ### Classes -/

/-- A tag inside a link is a platform. -/
lemma linkedIn_tag (platforms : List String) (tag : String) (position : Position)
    (rest : List Token) :
    linkedIn true platforms (⟨.identifier, tag, position⟩ :: rest) =
      linkedIn true (platforms ++ [tag]) rest := by
  simp [linkedIn_inside]

/-- A comma inside a link is passed over. -/
lemma linkedIn_comma (platforms : List String) (text : String) (position : Position)
    (rest : List Token) :
    linkedIn true platforms (⟨.comma, text, position⟩ :: rest) = linkedIn true platforms rest := by
  simp [linkedIn_inside]

/-- The word `link` and a parenthesis open a link. -/
lemma linkedIn_link (platforms : List String) (text : String) (position position' : Position)
    (rest : List Token) :
    linkedIn false platforms
      (⟨.identifier, "link", position⟩ :: ⟨.openParen, text, position'⟩ :: rest) =
      linkedIn true platforms rest := by
  rw [linkedIn]
  simp

/-- The tags of a link are read up to the closing parenthesis and the closing brackets. -/
lemma linkedIn_tokensAt (tags platforms : List String) (position : Position)
    {paren bracket bracket' : Token} (hparen : paren.kind = .closeParen)
    (hbracket : bracket.kind = .closeBracket) (hbracket' : bracket'.kind = .closeBracket)
    (rest : List Token) :
    linkedIn true platforms (tokensAt position
      (separated comma (tags.map fun tag => [token .identifier tag])) ++
        paren :: bracket :: bracket' :: rest) = some (platforms ++ tags, rest) := by
  induction tags generalizing platforms position with
  | nil => simp [separated, linkedIn, hparen, hbracket, hbracket']
  | cons tag others ih =>
    cases others with
    | nil => simp [separated, linkedIn, hparen, hbracket, hbracket']
    | cons second others =>
      have hrest := ih (platforms ++ [tag])
      simp only [List.map_cons, separated_cons_cons] at hrest ⊢
      simp only [comma, tokensAt_token, tokensAt_blank, List.cons_append,
        List.nil_append] at hrest ⊢
      rw [linkedIn_tag, linkedIn_comma, hrest, List.append_assoc]
      rfl

/-- An attribute line is read. -/
lemma linkAttribute_tokensAt {linked : List String} (h : linked ≠ []) (position : Position)
    (rest : List Token) :
    linkAttribute.parse (tokensAt position (ofAttribute linked) ++ rest) =
      some (linked, rest) := by
  have hlinked := fun position p p' p'' =>
    linkedIn_tokensAt linked [] position
      (show Token.kind ⟨.closeParen, String.singleton ')', p⟩ = .closeParen from rfl)
      (show Token.kind ⟨.closeBracket, String.singleton ']', p'⟩ = .closeBracket from rfl)
      (show Token.kind ⟨.closeBracket, String.singleton ']', p''⟩ = .closeBracket from rfl) rest
  rw [ofAttribute, if_neg h]
  simp only [linkAttribute, tokensAt_token, tokensAt_append, tokensAt_blank, tokensAt_nil,
    List.cons_append, List.append_assoc, List.nil_append, expect_cons, Option.bind_eq_bind,
    Option.bind_some]
  rw [linkedIn_link, hlinked, List.nil_append]

/-- The name in the header of a class is read up to the opening brace. -/
lemma classHeader_tokensAt (name : QualifiedName) (text : String)
    (position position' position'' : Position) (rest : List Token) :
    classHeader.parse (⟨.classWord, "class", position⟩ ::
      (tokensAt position' (ofSegments name.segments) ++
        ⟨.openBrace, text, position''⟩ :: rest)) = some (name, rest) := by
  have hbases : skipBases (⟨.openBrace, text, position''⟩ :: rest) =
      ⟨.openBrace, text, position''⟩ :: rest := by
    rw [skipBases, expect_of_ne (by simp)]
  simp only [classHeader, expect_cons, Option.bind_eq_bind, Option.bind_some]
  rw [qualifiedName_tokensAt name (by simp) position', Option.bind_some, hbases, expect_cons]
  rfl

/-- The tokens of lexemes have the kinds of the lexemes. -/
lemma kind_of_mem_tokensAt {lexemes : List Lexeme} {position : Position} {token : Token}
    (h : token ∈ tokensAt position lexemes) :
    ∃ lexeme ∈ lexemes, lexeme.kind? = some token.kind := by
  induction lexemes generalizing position with
  | nil => simp at h
  | cons lexeme others ih =>
    cases lexeme with
    | blank c =>
      obtain ⟨lexeme, hmem, hkind⟩ := ih h
      exact ⟨lexeme, List.mem_cons_of_mem _ hmem, hkind⟩
    | token kind text =>
      rcases List.mem_cons.1 h with rfl | h
      · exact ⟨_, List.mem_cons_self, rfl⟩
      · obtain ⟨lexeme, hmem, hkind⟩ := ih h
        exact ⟨lexeme, List.mem_cons_of_mem _ hmem, hkind⟩

/-- There is no closing brace among the lexemes. -/
def Braceless (lexemes : List Lexeme) : Prop :=
  ∀ lexeme ∈ lexemes, lexeme.kind? ≠ some .closeBrace

@[simp] lemma braceless_nil : Braceless [] := by
  simp [Braceless]

@[simp] lemma braceless_blank {c : Char} {rest : List Lexeme} :
    Braceless (blank c :: rest) ↔ Braceless rest := by
  simp [Braceless, kind?]

@[simp] lemma braceless_token {kind : TokenKind} {text : String} {rest : List Lexeme} :
    Braceless (token kind text :: rest) ↔ kind ≠ .closeBrace ∧ Braceless rest := by
  simp [Braceless, kind?]

@[simp] lemma braceless_append {first second : List Lexeme} :
    Braceless (first ++ second) ↔ Braceless first ∧ Braceless second := by
  simp [Braceless, or_imp, forall_and]

/-- A repeated mark that is no closing brace is braceless. -/
lemma braceless_replicate (n : Nat) {kind : TokenKind} {text : String} (h : kind ≠ .closeBrace) :
    Braceless (List.replicate n (token kind text)) := by
  intro lexeme hmem
  rw [List.eq_of_mem_replicate hmem]
  simpa [kind?] using h

/-- Braceless lexemes with commas between them are braceless. -/
lemma braceless_commas {groups : List (List Lexeme)} (h : ∀ group ∈ groups, Braceless group) :
    Braceless (separated comma groups) :=
  of_mem_separated (by simp [comma, kind?]) h

/-- A name is braceless. -/
lemma braceless_segments (segments : List String) : Braceless (ofSegments segments) :=
  of_mem_separated (by simp [kind?]) (by simp [kind?])

/-- A template clause of braceless arguments is braceless. -/
lemma braceless_clause {args : List (List Lexeme)} (h : ∀ arg ∈ args, Braceless arg) :
    Braceless (ofClause args) := by
  unfold ofClause
  split
  · exact braceless_nil
  · simp [braceless_commas h]

mutual

/-- A type is braceless. -/
theorem braceless_type : ∀ type : TypeExpr, Braceless (ofType type)
  | .mk name args isConst pointers references => by
    have hclause := braceless_clause (braceless_types args)
    cases isConst <;> simp [ofType, braceless_segments, hclause, braceless_replicate]

/-- Types are braceless. -/
theorem braceless_types : ∀ types : List TypeExpr, ∀ group ∈ ofTypes types, Braceless group
  | [] => by simp [ofTypes]
  | type :: types => by
    rw [ofTypes]
    exact List.forall_mem_cons.2 ⟨braceless_type type, braceless_types types⟩

end

/-- A parameter is braceless. -/
lemma braceless_param (param : ParamDecl) : Braceless (ofParam param) := by
  unfold ofParam
  cases param.name <;> simp [braceless_type]

/-- A heading is braceless. -/
lemma braceless_heading (decl : FunctionDecl) : Braceless (ofHeading decl) := by
  unfold ofHeading
  split <;> simp [braceless_type]

/-- An address clause is braceless. -/
lemma braceless_addresses (clause : AddressClause) : Braceless (ofAddresses clause) := by
  have hpairs : ∀ group ∈ clause.map ofAddress, Braceless group := by
    intro group hgroup
    obtain ⟨pair, -, rfl⟩ := List.mem_map.1 hgroup
    simp [ofAddress]
  unfold ofAddresses
  split
  · exact braceless_nil
  · simp [braceless_commas hpairs]

/-- A function is braceless. -/
lemma braceless_function (decl : FunctionDecl) : Braceless (ofFunction decl) := by
  have hdispatch : Braceless (ofDispatch decl.dispatch) := by
    cases decl.dispatch <;> simp [ofDispatch]
  have hparams : ∀ group ∈ decl.params.map ofParam, Braceless group := by simp [braceless_param]
  simp [ofFunction, ofParams, hdispatch, braceless_heading, braceless_commas hparams,
    braceless_addresses]

/-- A body ends at the first closing brace that stands in column one. -/
lemma body_append {inside : List Token}
    (h : ∀ token ∈ inside, ¬(token.kind = .closeBrace ∧ token.position.column = 1))
    {brace : Token} (hkind : brace.kind = .closeBrace) (hcolumn : brace.position.column = 1)
    (rest : List Token) : body (inside ++ brace :: rest) = some (inside, rest) := by
  induction inside with
  | nil => simp [body, hkind, hcolumn]
  | cons token inside ih =>
    obtain ⟨htoken, hinside⟩ := List.forall_mem_cons.1 h
    rw [List.cons_append, body, if_neg htoken, ih hinside]
    rfl

/-- Behind a line feed comes column one. -/
lemma column_newline (position : Position) (text : List Char) :
    (position.afterAll (text ++ ['\n'])).column = 1 := by
  rw [Position.afterAll_append]
  rfl

/-- Behind lines of functions that start in column one comes column one. -/
lemma column_functions (functions : List FunctionDecl) {position : Position}
    (h : position.column = 1) :
    (position.afterAll (textOf (functions.flatMap ofFunction))).column = 1 := by
  induction functions generalizing position with
  | nil => exact h
  | cons decl others ih =>
    have hline : ∃ line, textOf (ofFunction decl) = line ++ ['\n'] := by
      refine ⟨textOf (blank ' ' :: blank ' ' :: (ofDispatch decl.dispatch ++ (ofHeading decl ++
        (ofParams decl.params ++ (ofAddresses decl.addresses ++ [mark .semicolon ';']))))), ?_⟩
      simp [ofFunction, text]
    obtain ⟨line, hline⟩ := hline
    rw [List.flatMap_cons, textOf_append, Position.afterAll_append]
    refine ih ?_
    rw [hline]
    exact column_newline position line

/-- The functions of a class are braceless. -/
lemma kind_ne_of_mem_functions {functions : List FunctionDecl} {position : Position}
    {token : Token} (h : token ∈ tokensAt position (functions.flatMap ofFunction)) :
    token.kind ≠ .closeBrace := by
  intro hkind
  obtain ⟨lexeme, hlexeme, hkind'⟩ := kind_of_mem_tokensAt h
  obtain ⟨decl, -, hmem⟩ := List.mem_flatMap.1 hlexeme
  exact braceless_function decl lexeme hmem (hkind ▸ hkind')

/-- The block of a well-formed class is read, behind whatever attribute. -/
lemma block_tokensAt {cls : ClassDecl} (h : cls.WellFormed) (linked : List String)
    (position : Position) (rest : List Token) :
    ∃ start inside last, BlockStart.behind linked (tokensAt position (ofBlock cls) ++ rest) =
        some (start, last) ∧
      body last = some (inside, rest) ∧
      ClassDecl.ofBody start inside = { cls with linked } := by
  have hcolumn : ∀ position : Position,
      (((position.after '\n').afterAll (textOf (cls.functions.flatMap ofFunction)))).column = 1 :=
    fun position => column_functions cls.functions (column_newline position [])
  have hbody : ∀ position position' : Position, position'.column = 1 →
      body (tokensAt position (cls.functions.flatMap ofFunction) ++
        ⟨.closeBrace, String.singleton '\x7d', position'⟩ :: rest) =
        some (tokensAt position (cls.functions.flatMap ofFunction), rest) :=
    fun position position' hone =>
      body_append (fun _ hmem hends => kind_ne_of_mem_functions hmem hends.1) rfl hone rest
  simp only [ofBlock, tokensAt_token, tokensAt_blank, tokensAt_append, tokensAt_nil,
    List.cons_append, List.append_assoc, List.nil_append, BlockStart.behind, List.head?_cons,
    Option.bind_eq_bind, Option.bind_some, classHeader_tokensAt]
  refine ⟨_, _, _, rfl, hbody _ _ (hcolumn _), ?_⟩
  simp only [ClassDecl.ofBody, scan_tokensAt h.functions, List.reverse_nil, List.nil_append]

/-- A well-formed class is read. -/
lemma class_tokensAt {cls : ClassDecl} (h : cls.WellFormed) (position : Position)
    (rest : List Token) :
    ∃ start inside last, blockStart.parse (tokensAt position (ofClass cls) ++ rest) =
        some (start, last) ∧
      body last = some (inside, rest) ∧ ClassDecl.ofBody start inside = cls := by
  rw [ofClass, tokensAt_append, List.append_assoc]
  by_cases hlinked : cls.linked = []
  · have hnone : ∀ position,
        linkAttribute.parse (tokensAt position (ofBlock cls) ++ rest) = none := by
      simp [linkAttribute, ofBlock, expect]
    have hself : { cls with linked := [] } = cls := by
      cases cls
      cases hlinked
      rfl
    have hblock := block_tokensAt h [] position rest
    rw [hself] at hblock
    simpa [ofAttribute, hlinked, blockStart, hnone] using hblock
  · have hblock := block_tokensAt h cls.linked
      (position.afterAll (textOf (ofAttribute cls.linked))) rest
    simpa only [blockStart, linkAttribute_tokensAt hlinked] using hblock

end Grammar

/-- A class block is one more class. -/
lemma classesIn_of_block {found : List ClassDecl} {tokens inside last rest : List Token}
    {start : BlockStart} (hstart : Grammar.blockStart.parse tokens = some (start, last))
    (hbody : Grammar.body last = some (inside, rest)) :
    classesIn found tokens = classesIn (.ofBody start inside :: found) rest := by
  cases tokens with
  | nil => exact absurd (Grammar.blockStart.shorter hstart) (Nat.not_lt_zero _)
  | cons token tokens =>
    rw [classesIn_cons, hstart]
    simp only [hbody]

/-- Well-formed classes are read in their order. -/
lemma classesIn_tokensAt {classes : List ClassDecl} (h : ∀ cls ∈ classes, cls.WellFormed)
    (found : List ClassDecl) (position : Position) :
    classesIn found (tokensAt position (classes.flatMap ofClass)) =
      .ok (found.reverse ++ classes) := by
  induction classes generalizing found position with
  | nil => simp [classesIn]
  | cons cls others ih =>
    obtain ⟨hcls, hothers⟩ := List.forall_mem_cons.1 h
    rw [List.flatMap_cons, tokensAt_append]
    obtain ⟨start, inside, last, hstart, hbody, heq⟩ := Grammar.class_tokensAt hcls position
      (tokensAt (position.afterAll (textOf (ofClass cls))) (others.flatMap ofClass))
    rw [classesIn_of_block hstart hbody, heq, ih hothers]
    simp

/-- Well-formed classes are read from their text. -/
lemma parse_render_of_wellFormed {classes : List ClassDecl} (h : ∀ cls ∈ classes, cls.WellFormed) :
    parse (render classes) = .ok classes := by
  obtain ⟨position, htokens⟩ := tokenize_render h
  rw [parse, htokens]
  simp only [List.dropLast_concat]
  rw [classesIn_tokensAt h]
  rfl

/-- Well-formed classes are read from their text as they are.  Whatever is read from any text is
well-formed, so writing it and reading it again gives the same. -/
theorem parse_render :
    (∀ classes, (∀ cls ∈ classes, ClassDecl.WellFormed cls) →
      parse (render classes) = .ok classes) ∧
    ∀ source classes, parse source = .ok classes →
      (∀ cls ∈ classes, ClassDecl.WellFormed cls) ∧ parse (render classes) = .ok classes :=
  ⟨fun _ h => parse_render_of_wellFormed h, fun _ _ h =>
    ⟨wellFormed_of_parse h, parse_render_of_wellFormed (wellFormed_of_parse h)⟩⟩

/-- A class as a person might write it. -/
def nodeText : String :=
  "[[link(win, mac)]] class cocos::Node : Base \x7b\n" ++
  "\tvirtual ~Node() \x7b reset(); \x7d // frees the children\n" ++
  "\tstatic cocos::List<Pair<int, Node*>> const & all(int count, float,)\n" ++
  "\t\t= win 0x1F00, mac 0x2000, win 0x3;\n" ++
  "\x7d"

/-- The class of `nodeText`. -/
def nodeClass : ClassDecl where
  name := { scopes := ["cocos"], base := "Node" }
  linked := ["win", "mac"]
  functions := [
    { name := "~Node", isDestructor := true, dispatch := .virtual },
    { name := "all"
      dispatch := .static
      returnType := some (.mk { scopes := ["cocos"], base := "List" }
        [.mk { base := "Pair" } [.mk { base := "int" } [] false 0 0,
          .mk { base := "Node" } [] false 1 0] false 0 0] true 0 1)
      params := [{ type := .mk { base := "int" } [] false 0 0, name := some "count" },
        { type := .mk { base := "float" } [] false 0 0 }]
      addresses := [("win", 0x1F00), ("mac", 0x2000)] }]

/-- The class of `nodeText` is well-formed, and it is read again from its canonical text. -/
theorem parse_render_nodeClass :
    parse nodeText = .ok [nodeClass] ∧ nodeClass.WellFormed ∧
      parse (render [nodeClass]) = .ok [nodeClass] := by
  have hparse : parse nodeText = .ok [nodeClass] := by decide +kernel
  obtain ⟨hwell, -⟩ := parse_render.2 nodeText [nodeClass] hparse
  exact ⟨hparse, hwell nodeClass List.mem_cons_self, parse_render.1 [nodeClass] hwell⟩

example : render [nodeClass] =
    "[[link(win, mac)]]\nclass cocos::Node \x7b\n  virtual ~Node();\n" ++
    "  static const cocos::List<Pair<int, Node*>>& all(int count, float)" ++
    " = win 0x1f00, mac 0x2000;\n\x7d\n" := by
  decide +kernel

end Binding

end BindingSync
