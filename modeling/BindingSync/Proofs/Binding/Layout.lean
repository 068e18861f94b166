import BindingSync.Proofs.Binding.Blindness

/-!
# Layout

Only two things depend on the place of a token: a class body ends at a closing brace in column
one, and the error for a body without an end tells where its class starts.  So moving the tokens
about changes nothing but the place in the error, as long as the braces in column one stay there
and no others get there (`classesIn_moved`).  Two texts with the same tokens are both moved to
the same places, which is how `parse_of_sameTokens` compares them.
-/

namespace BindingSync.Binding

variable {g : TokenKind → Position → Position}

namespace BlockStart

/-- The start of the block with its `class` word at another place. -/
def moved (g : TokenKind → Position → Position) (start : BlockStart) : BlockStart :=
  { start with position := g .classWord start.position }

/-- A class header is found at the same token, and so is its `class` word. -/
lemma behind_moved (linked : List String) (tokens : List Token) :
    behind linked (tokens.map (Token.moved g)) =
      (behind linked tokens).map fun read => (read.1.moved g, read.2.map (Token.moved g)) := by
  cases tokens with
  | nil => rfl
  | cons token rest =>
    have hmoved := Grammar.isBlind_classHeader g (token :: rest)
    rw [List.map_cons] at hmoved
    simp only [behind, List.map_cons, List.head?_cons, Option.bind_eq_bind, Option.bind_some,
      hmoved]
    cases hheader : Grammar.classHeader.parse (token :: rest) with
    | none => rfl
    | some read =>
      have hkind := Grammar.kind_of_classHeader (hheader ▸ Option.some_ne_none read)
      simp [moved, hkind]

end BlockStart

namespace Grammar

/-- A class block starts at the same token. -/
lemma blockStart_moved (tokens : List Token) :
    blockStart.parse (tokens.map (Token.moved g)) =
      (blockStart.parse tokens).map fun read => (read.1.moved g, read.2.map (Token.moved g)) := by
  simp only [blockStart, isBlind_linkAttribute g]
  cases linkAttribute.parse tokens with
  | none => exact BlockStart.behind_moved [] tokens
  | some read => exact BlockStart.behind_moved read.1 read.2

/-- Closing braces that stand in column one do so after the move, and no others. -/
def KeepsMargin (g : TokenKind → Position → Position) : Prop :=
  ∀ position, (g .closeBrace position).column = 1 ↔ position.column = 1

/-- A body ends at the same token if column one is kept. -/
lemma body_moved (h : KeepsMargin g) (tokens : List Token) :
    body (tokens.map (Token.moved g)) =
      (body tokens).map (Prod.map (List.map (Token.moved g)) (List.map (Token.moved g))) := by
  induction tokens with
  | nil => rfl
  | cons token rest ih =>
    have hends : token.kind = .closeBrace ∧ (g token.kind token.position).column = 1 ↔
        token.kind = .closeBrace ∧ token.position.column = 1 :=
      and_congr_right fun hkind => hkind ▸ h token.position
    simp only [List.map_cons, body, Token.kind_moved, Token.position_moved, hends, ih]
    split
    · rfl
    · simp [Function.comp_def]

end Grammar

/-- The lexical error at another place. -/
def LexError.moved (place : Position → Position) (error : LexError) : LexError :=
  { error with position := place error.position }

/-- The error at another place. -/
def ParseError.moved (place : Position → Position) : ParseError → ParseError
  | lexical error => lexical (error.moved place)
  | openBody name position => openBody name (place position)

/-- Tokens at other places hold the same classes if column one is kept.  Only the place that an
error tells is another one. -/
lemma classesIn_moved (h : Grammar.KeepsMargin g) (found : List ClassDecl)
    (tokens : List Token) :
    classesIn found (tokens.map (Token.moved g)) =
      (classesIn found tokens).mapError (ParseError.moved (g .classWord)) := by
  fun_induction classesIn found tokens with
  | case1 found => simp [classesIn, Except.mapError]
  | case2 found token rest start rest' hstart inside last hbody ih =>
    have hmoved := Grammar.blockStart_moved (g := g) (token :: rest)
    rw [hstart, List.map_cons] at hmoved
    have hscan := Grammar.isBlind_function.scan (g := g) [] inside
    rw [List.map_cons, classesIn_cons, hmoved]
    simp only [Option.map_some, Grammar.body_moved h, hbody, Prod.map_apply]
    rw [← ih, ClassDecl.ofBody, hscan]
    rfl
  | case3 found token rest start rest' hstart hbody =>
    have hmoved := Grammar.blockStart_moved (g := g) (token :: rest)
    rw [hstart, List.map_cons] at hmoved
    rw [List.map_cons, classesIn_cons, hmoved]
    simp only [Option.map_some, Grammar.body_moved h, hbody]
    rfl
  | case4 found token rest hstart linked rest' hlink ih =>
    have hmoved := Grammar.blockStart_moved (g := g) (token :: rest)
    have hlinked := Grammar.isBlind_linkAttribute g (token :: rest)
    rw [hstart, List.map_cons] at hmoved
    rw [hlink, List.map_cons] at hlinked
    rw [List.map_cons, classesIn_cons, hmoved, hlinked, ← ih]
    rfl
  | case5 found token rest hstart hlink ih =>
    have hmoved := Grammar.blockStart_moved (g := g) (token :: rest)
    have hlinked := Grammar.isBlind_linkAttribute g (token :: rest)
    rw [hstart, List.map_cons] at hmoved
    rw [hlink, List.map_cons] at hlinked
    rw [List.map_cons, classesIn_cons, hmoved, hlinked, ← ih]
    rfl

/-! ### Texts with the same tokens -/

/-- Two tokens that differ in nothing but their places, and closing braces not in whether they
stand in column one. -/
structure Token.Alike (token other : Token) : Prop where
  kind : token.kind = other.kind
  text : token.text = other.text
  margin : token.kind = .closeBrace → (token.position.column = 1 ↔ other.position.column = 1)

instance (token other : Token) : Decidable (token.Alike other) :=
  decidable_of_iff (token.kind = other.kind ∧ token.text = other.text ∧
      (token.kind = .closeBrace → (token.position.column = 1 ↔ other.position.column = 1)))
    ⟨fun h => ⟨h.1, h.2.1, h.2.2⟩, fun h => ⟨h.kind, h.text, h.margin⟩⟩

/-- The place that is left of a place when the layout is forgotten: column one for the closing
braces that stand there, and column two for everything else. -/
def bare (kind : TokenKind) (position : Position) : Position where
  line := 1
  column := if kind = .closeBrace ∧ position.column = 1 then 1 else 2

/-- Forgetting the layout keeps column one. -/
lemma keepsMargin_bare : Grammar.KeepsMargin bare := by
  intro position
  simp [bare]

/-- Without their layout, tokens that are alike are the same. -/
lemma map_moved_bare {tokens others : List Token} (h : List.Forall₂ Token.Alike tokens others) :
    tokens.map (Token.moved bare) = others.map (Token.moved bare) := by
  induction h with
  | nil => rfl
  | @cons token other tokens others halike _ ih =>
    have hposition : bare token.kind token.position = bare other.kind other.position := by
      simp only [bare, ← halike.kind, and_congr_right halike.margin]
    rw [List.map_cons, List.map_cons, ih, Token.moved, Token.moved, hposition, halike.kind,
      halike.text]

/-- The only error of tokens is a body that does not end. -/
lemma exists_openBody_of_classesIn {found : List ClassDecl} {tokens : List Token}
    {error : ParseError} (h : classesIn found tokens = .error error) :
    ∃ name position, error = .openBody name position := by
  fun_induction classesIn found tokens with
  | case1 => cases h
  | case2 _ _ _ _ _ _ _ _ _ ih => exact ih h
  | case3 _ _ _ start =>
    cases h
    exact ⟨_, _, rfl⟩
  | case4 _ _ _ _ _ _ _ ih => exact ih h
  | case5 _ _ _ _ _ ih => exact ih h

/-- The texts have tokens that are alike, one by one. -/
def SameTokens (source other : String) : Prop :=
  ∃ tokens others, tokenize source = .ok tokens ∧ tokenize other = .ok others ∧
    List.Forall₂ Token.Alike tokens others

instance (source other : String) : Decidable (SameTokens source other) :=
  match hsource : tokenize source, hother : tokenize other with
  | .ok tokens, .ok others =>
    decidable_of_iff (List.Forall₂ Token.Alike tokens others) (by simp [SameTokens, *])
  | .error _, _ => isFalse (by simp [SameTokens, hsource])
  | _, .error _ => isFalse (by simp [SameTokens, hother])

/-- Layout does not matter except for closing braces in column one: texts with the same tokens
declare the same classes, or the body of the same class does not end in both of them. -/
theorem parse_of_sameTokens {source other : String} (h : SameTokens source other) :
    (∃ classes, parse source = .ok classes ∧ parse other = .ok classes) ∨
      ∃ name position position', parse source = .error (.openBody name position) ∧
        parse other = .error (.openBody name position') := by
  obtain ⟨tokens, others, hsource, hother, halike⟩ := h
  -- Both lists of tokens, moved to the places that forget the layout, are one list.
  have hbare := congrArg List.dropLast (map_moved_bare halike)
  have hclasses := classesIn_moved keepsMargin_bare [] tokens.dropLast
  have hothers := classesIn_moved keepsMargin_bare [] others.dropLast
  rw [List.map_dropLast, hbare, ← List.map_dropLast, hothers] at hclasses
  simp only [parse, hsource, hother]
  cases hresult : classesIn [] tokens.dropLast with
  | ok classes =>
    cases hresult' : classesIn [] others.dropLast with
    | ok classes' =>
      rw [hresult, hresult'] at hclasses
      cases hclasses
      exact .inl ⟨classes, rfl, rfl⟩
    | error error' =>
      rw [hresult, hresult'] at hclasses
      cases hclasses
  | error error =>
    cases hresult' : classesIn [] others.dropLast with
    | ok classes' =>
      rw [hresult, hresult'] at hclasses
      cases hclasses
    | error error' =>
      obtain ⟨name, position, rfl⟩ := exists_openBody_of_classesIn hresult
      obtain ⟨name', position', rfl⟩ := exists_openBody_of_classesIn hresult'
      rw [hresult, hresult'] at hclasses
      obtain ⟨rfl⟩ := hclasses
      exact .inr ⟨name, position, position', rfl, rfl⟩

/-- A class with a comment, blanks and line feeds between its tokens. -/
def spreadText : String :=
  "class Menu // see \x7b\n\x7b\n  int width(Pair<int,\n    Node *> all) = win 0x10\n" ++
  "  \x7b return\n    0; \x7d\n\x7d\n"

/-- The tokens of `spreadText` with other blanks between them. -/
def narrowText : String :=
  "/* \x7d */ class Menu\x7b int width(Pair<int,Node*>all)=win 0x10\x7breturn 0;\x7d\n\x7d"

/-- `spreadText` and `narrowText` have the same tokens, so they declare the same classes. -/
theorem parse_spreadText_narrowText :
    SameTokens spreadText narrowText ∧
      ((∃ classes, parse spreadText = .ok classes ∧ parse narrowText = .ok classes) ∨
        ∃ name position position', parse spreadText = .error (.openBody name position) ∧
          parse narrowText = .error (.openBody name position')) := by
  have hsame : SameTokens spreadText narrowText := by decide +kernel
  exact ⟨hsame, parse_of_sameTokens hsame⟩

end BindingSync.Binding
