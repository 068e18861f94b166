import BindingSync.Proofs.Binding.Decomposition

/-!
# Putting texts together

What the lexer finds in a text can be told from the parts of the text in two cases.  A text below
another one is read as if it stood alone, for behind a line feed the lexer is where it starts, but
for the line (`tokenize_stacked`).  And tokens that are written with single blanks between them are
read as the same tokens again (`tokenize_spaced`): each of them was as long as it could be where it
came from, and in front of a blank it is that anyway.
-/

namespace BindingSync.Binding

open BindingSync.Text

/-! ### The tokens of a text -/

/-- A text that can be read consists of the segments of its tokens, and a gap. -/
lemma exists_scan_of_tokenize {source : String} {tokens : List Token}
    (h : tokenize source = .ok tokens) :
    ∃ segments gap, IsScan [] source.toList segments gap [] ∧
      tokens = segments.map Segment.token ++ [Token.endAt (placeBehind source.toList)] := by
  obtain ⟨segments, gap, rest, hscan, hrest⟩ := exists_scan [] source.toList
  rcases hrest with rfl | ⟨fault, hunclosed⟩
  · rw [tokenize_of_scan hscan] at h
    exact ⟨segments, gap, hscan, (Except.ok.inj h).symm⟩
  · rw [tokenize_of_unclosed hscan hunclosed] at h
    cases h

/-- The token for the end comes last and nowhere else. -/
lemma exists_front_of_tokenize {source : String} {tokens : List Token}
    (h : tokenize source = .ok tokens) :
    ∃ front eof, tokens = front ++ [eof] ∧ eof.kind = .eof ∧
      ∀ token ∈ front, token.kind ≠ .eof := by
  obtain ⟨segments, gap, hscan, rfl⟩ := exists_scan_of_tokenize h
  refine ⟨_, _, rfl, rfl, fun token htoken => ?_⟩
  obtain ⟨segment, hsegment, rfl⟩ := List.mem_map.1 htoken
  exact kind_ne_eof_of_inRow hscan.inRow segment hsegment

/-! ### One text below another -/

/-- A text that can be read composes with any text below it.  If that can be read, its tokens follow
in place of the end of the upper text, as many lines further down as there are line feeds in that and
between the two; if it cannot be read, neither can both together, and the error is moved likewise. -/
theorem tokenize_stacked {upper : String} {tokens : List Token} (h : tokenize upper = .ok tokens) :
    ∃ front eof, tokens = front ++ [eof] ∧ eof.kind = .eof ∧
      (∀ token ∈ front, token.kind ≠ .eof) ∧ ∀ lower,
        (∀ others, tokenize lower = .ok others →
          tokenize (upper ++ "\n" ++ lower) = .ok (front ++ others.map fun token =>
            { token with position := token.position.below (upper.toList.count '\n' + 1) })) ∧
        ∀ error, tokenize lower = .error error →
          tokenize (upper ++ "\n" ++ lower) = .error
            { error with position := error.position.below (upper.toList.count '\n' + 1) } := by
  obtain ⟨front, eof, htokens, heof, hfront⟩ := exists_front_of_tokenize h
  have hdrop : tokens.dropLast = front := by rw [htokens, List.dropLast_concat]
  refine ⟨front, eof, htokens, heof, hfront, fun lower => ⟨?_, ?_⟩⟩
  · intro others hothers
    rw [tokenize_newline h lower, hothers, hdrop]
    rfl
  · intro error herror
    rw [tokenize_newline h lower, herror]
    rfl

/-- A text with a literal over two lines and half an operator at its end. -/
def upperText : String :=
  "a \"\\\n//\" /* \\ */ ::: // \"\n:"

/-- `upperText` can be read, so it composes with any text below it. -/
theorem tokenize_stacked_upperText :
    ∃ tokens, tokenize upperText = .ok tokens ∧
      ∃ front eof, tokens = front ++ [eof] ∧ eof.kind = .eof ∧
        (∀ token ∈ front, token.kind ≠ .eof) ∧ ∀ lower,
          (∀ others, tokenize lower = .ok others →
            tokenize (upperText ++ "\n" ++ lower) = .ok (front ++ others.map fun token =>
              { token with position := token.position.below (upperText.toList.count '\n' + 1) })) ∧
          ∀ error, tokenize lower = .error error →
            tokenize (upperText ++ "\n" ++ lower) = .error
              { error with position := error.position.below (upperText.toList.count '\n' + 1) } := by
  have htokens : tokenize upperText = .ok ((tokenize upperText).toOption.getD []) := by
    decide +kernel
  exact ⟨_, htokens, tokenize_stacked htokens⟩

example : tokenize ("a\n:" ++ "\n" ++ ":\n '") = .error ⟨.stringLiteral, ⟨4, 2⟩⟩ := by
  decide +kernel

/-! ### Tokens with blanks between them -/

/-- Nothing or a blank comes next. -/
def StartsBlank (rest : List Char) : Prop :=
  ∀ c ∈ rest.head?, c = ' '

/-- What is a token in front of some text is one in front of a blank, for no token goes on with a
blank. -/
lemma IsToken.of_startsBlank {kind : TokenKind} {word rest blanks : List Char}
    (h : IsToken kind word rest) (hblanks : StartsBlank blanks) : IsToken kind word blanks := by
  have hnext : ∀ {P : Char → Prop}, P ' ' → ∀ c ∈ blanks.head?, P c := by
    intro P hP c hc
    rwa [hblanks c hc]
  cases h with
  | mark hmark => exact .mark hmark
  | scope => exact .scope
  | colon => exact .colon (hnext (by decide))
  | string hquote hbody => exact .string hquote hbody
  | number hstarts hcontinues => exact .number hstarts hcontinues (hnext (by decide))
  | word hdigit hstarts hcontinues => exact .word hdigit hstarts hcontinues (hnext (by decide))
  | symbol hsymbol => exact .symbol { hsymbol with comment := fun _ => hnext (by decide) }

namespace Lexeme

/-- A token with its text is a lexeme. -/
def ofToken (token : Token) : Lexeme :=
  .token token.kind token.text

/-- Tokens with blanks between them. -/
def spaced (tokens : List Token) : List Lexeme :=
  separated [blank ' '] (tokens.map fun token => [ofToken token])

/-- The text of spaced tokens. -/
lemma textOf_spaced (tokens : List Token) :
    textOf (spaced tokens) = (" ".intercalate (tokens.map Token.text)).toList := by
  rw [spaced, textOf_separated, String.toList_intercalate]
  simp [ofToken, text, Function.comp_def]

/-- Spaced tokens start wherever they start, but they are the tokens. -/
lemma map_tokensAt_spaced (position : Position) (tokens : List Token) :
    (tokensAt position (spaced tokens)).map (fun token => (token.kind, token.text)) =
      tokens.map fun token => (token.kind, token.text) := by
  induction tokens generalizing position with
  | nil => rfl
  | cons first others ih =>
    cases others with
    | nil => rfl
    | cons second others =>
      have hspaced : spaced (first :: second :: others) =
          ofToken first :: blank ' ' :: spaced (second :: others) := rfl
      rw [hspaced, ofToken, tokensAt_token, tokensAt_blank, List.map_cons, ih]
      rfl

/-- Spaced tokens are readable if each of them is a token where it came from. -/
lemma readable_spaced {tokens : List Token}
    (h : ∀ token ∈ tokens, ∃ rest, IsToken token.kind token.text.toList rest) :
    Readable (spaced tokens) [] := by
  refine readable_separated (P := StartsBlank) (fun rest => ⟨?_, ?_⟩) ?_ ?_
  · exact ⟨reads_blank rfl _, trivial⟩
  · simp [StartsBlank, text]
  · intro group hgroup blanks hblanks
    obtain ⟨token, hmem, rfl⟩ := List.mem_map.1 hgroup
    obtain ⟨rest, htoken⟩ := h token hmem
    exact ⟨Piece.takes_of_isToken (htoken.of_startsBlank hblanks), trivial⟩
  · simp [StartsBlank]

end Lexeme

/-- Each segment in a row has a token of its class. -/
lemma exists_isToken_of_inRow {before rest : List Char} {segments : List Segment}
    (h : Segment.InRow before rest segments) :
    ∀ segment ∈ segments, ∃ behind, IsToken segment.token.kind segment.token.text.toList behind := by
  induction segments generalizing before with
  | nil => simp
  | cons segment segments ih =>
    obtain ⟨-, htoken, -, hrow⟩ := h
    exact List.forall_mem_cons.2 ⟨⟨_, htoken⟩, ih hrow⟩

/-- Tokens are read as themselves: the texts of the tokens of a text, with single blanks between
them and without the one for the end, make up a text that can be read, and its tokens are of the
same kinds and texts, one by one. -/
theorem tokenize_spaced {source : String} {tokens : List Token} (h : tokenize source = .ok tokens) :
    ∃ others,
      tokenize (" ".intercalate ((tokens.filter (·.kind ≠ .eof)).map Token.text)) = .ok others ∧
        others.map (fun token => (token.kind, token.text)) =
          tokens.map fun token => (token.kind, token.text) := by
  obtain ⟨segments, gap, hscan, rfl⟩ := exists_scan_of_tokenize h
  have hkinds := kind_ne_eof_of_inRow hscan.inRow
  have hclasses := exists_isToken_of_inRow hscan.inRow
  set front := segments.map Segment.token with hfront
  have hfilter : (front ++ [Token.endAt (placeBehind source.toList)]).filter (·.kind ≠ .eof) =
      front := by
    rw [List.filter_append, List.filter_eq_self.2]
    · simp [Token.endAt]
    · simpa [hfront] using hkinds
  have hread := Lexeme.tokenize_of_readable (Lexeme.textOf_spaced front).symm
    (Lexeme.readable_spaced (by simpa [hfront] using hclasses))
  refine ⟨_, by rw [hfilter]; exact hread, ?_⟩
  rw [List.map_append, List.map_append, Lexeme.map_tokensAt_spaced]
  rfl

/-- A text whose tokens run into comments and into one another as soon as they may. -/
def denseText : String :=
  "a/*/'*/\"/*\\\n\" classy::x1.5½/ :::'\\'':/**/: / / // '"

/-- The tokens of `denseText` are read as themselves, with blanks in between. -/
theorem tokenize_spaced_denseText :
    ∃ tokens, tokenize denseText = .ok tokens ∧ ∃ others,
      tokenize (" ".intercalate ((tokens.filter (·.kind ≠ .eof)).map Token.text)) = .ok others ∧
        others.map (fun token => (token.kind, token.text)) =
          tokens.map fun token => (token.kind, token.text) := by
  have htokens : tokenize denseText = .ok ((tokenize denseText).toOption.getD []) := by
    decide +kernel
  exact ⟨_, htokens, tokenize_spaced htokens⟩

end BindingSync.Binding
