import BindingSync.Proofs.Binding.Layout

/-!
# Texts on top of one another

No piece that the lexer takes runs over a line feed, except for a comment or a literal that is
closed behind it.  So a text that can be read on its own is read the same with more text below
it, and the text below is read as if it stood alone, with its places that many lines further
down (`tokenize_newline`).
-/

namespace BindingSync.Binding

open BindingSync.Text

namespace Position

/-- The place that is some lines further down. -/
def below (lines : Nat) (position : Position) : Position :=
  { position with line := position.line + lines }

@[simp] lemma below_zero (position : Position) : position.below 0 = position := rfl

@[simp] lemma below_below (lines more : Nat) (position : Position) :
    (position.below lines).below more = position.below (lines + more) := by
  simp [below, Nat.add_assoc]

lemma after_below (lines : Nat) (position : Position) (c : Char) :
    (position.below lines).after c = (position.after c).below lines := by
  by_cases h : c = '\n'
  · simp [after, below, h]
    omega
  · simp [after, below, h]

lemma afterAll_below (lines : Nat) (position : Position) (text : List Char) :
    (position.below lines).afterAll text = (position.afterAll text).below lines := by
  induction text generalizing position with
  | nil => rfl
  | cons c text ih => rw [afterAll_cons, afterAll_cons, after_below, ih]

/-- Each line feed leads to the next line. -/
lemma line_afterAll (position : Position) (text : List Char) :
    (position.afterAll text).line = position.line + text.count '\n' := by
  induction text generalizing position with
  | nil => rfl
  | cons c text ih =>
    rw [afterAll_cons, ih, List.count_cons]
    by_cases h : c = '\n'
    · simp [after, h]
      omega
    · simp [after, h]

end Position

/-! ### Pieces in front of a line feed -/

namespace Piece

/-- A comment that is closed is closed whatever follows. -/
lemma comment_extend {text body rest : List Char} (h : comment text = some (body, rest))
    (more : List Char) : comment (text ++ more) = some (body, rest ++ more) := by
  fun_induction comment text generalizing body with
  | case1 rest' =>
    cases h
    rfl
  | case2 c text hopen ih =>
    obtain ⟨⟨body', rest'⟩, hbody, heq⟩ := Option.map_eq_some_iff.1 h
    cases heq
    rw [List.cons_append, comment.eq_def]
    split
    · next htext =>
      cases text with
      | nil => simp [comment] at hbody
      | cons d text =>
        cases htext
        exact absurd rfl (hopen text rfl)
    · next htext =>
      cases htext
      rw [ih hbody]
      rfl
    · next htext => cases htext
  | case3 => cases h

/-- Without a backslash, one character of a literal is looked at. -/
lemma literal_cons {quote c : Char} (hc : c ≠ '\\') (text : List Char) :
    literal quote (c :: text) =
      if c = quote then some ([c], text)
      else if c = '\n' then none
      else (literal quote text).map fun (body, rest) => (c :: body, rest) := by
  rw [literal]
  exact fun d rest heq => absurd heq hc

/-- A literal that is closed is closed whatever follows, if its quote is no backslash. -/
lemma literal_extend {quote : Char} (hquote : quote ≠ '\\') {text body rest : List Char}
    (h : literal quote text = some (body, rest)) (more : List Char) :
    literal quote (text ++ more) = some (body, rest ++ more) := by
  fun_induction literal quote text generalizing body with
  | case1 => cases h
  | case2 c text ih =>
    obtain ⟨⟨body', rest'⟩, hbody, heq⟩ := Option.map_eq_some_iff.1 h
    cases heq
    simp [literal, ih hbody]
  | case3 text hescape =>
    cases h
    rw [List.cons_append, literal_cons hquote, if_pos rfl]
  | case4 => cases h
  | case5 c text hescape hc hbreak ih =>
    obtain ⟨⟨body', rest'⟩, hbody, heq⟩ := Option.map_eq_some_iff.1 h
    cases heq
    have hslash : c ≠ '\\' := by
      rintro rfl
      cases text with
      | nil => simp [literal] at hbody
      | cons d text => exact hescape d text rfl rfl
    rw [List.cons_append, literal_cons hslash, if_neg hc, if_neg hbreak, ih hbody]
    rfl

/-- The piece with more text left behind it. -/
def extend (piece : Piece) (more : List Char) : Piece :=
  { piece with rest := piece.rest ++ more }

/-- A run of characters ends at a line feed that is none of them. -/
lemma run_extend (kind : List Char → Option TokenKind) {p : Char → Bool} (hp : p '\n' = false)
    (c : Char) (text more : List Char) :
    run kind p c (text ++ '\n' :: more) = (run kind p c text).extend ('\n' :: more) := by
  have htake : (text ++ '\n' :: more).takeWhile p = text.takeWhile p := by
    rw [List.takeWhile_append, List.takeWhile_cons_of_neg (by simp [hp])]
    split
    · next hall => rw [List.append_nil, (List.takeWhile_prefix p).eq_of_length hall]
    · rfl
  have hdrop : (text ++ '\n' :: more).dropWhile p = text.dropWhile p ++ '\n' :: more := by
    rw [List.dropWhile_append, List.dropWhile_cons_of_neg (by simp [hp])]
    split <;> simp_all
  simp [run, extend, htake, hdrop]

/-- What starts with no colon is a mark, a literal, a number, a word or a symbol. -/
lemma token_of_ne {c : Char} (hc : c ≠ ':') (text : List Char) :
    token c text =
      match TokenKind.ofMark? c with
      | some kind => .ok (mark kind c text)
      | none =>
        if c = '"' || c = '\'' then
          match literal c text with
          | some (body, rest) => .ok ⟨some .string, c :: body, rest⟩
          | none => .error .stringLiteral
        else if isDigit c then
          .ok (run (fun _ => some .number) continuesNumber c text)
        else if startsWord c then
          .ok (run (fun word => some (.ofWord (String.ofList word))) continuesWord c text)
        else
          .ok (mark .symbol c text) := by
  unfold token
  split
  · exact absurd rfl hc
  · exact absurd rfl hc
  · rfl

/-- A token of a text is a token of the text with more lines below it. -/
lemma token_extend {c : Char} {text : List Char} {piece : Piece} (h : token c text = .ok piece)
    (more : List Char) :
    token c (text ++ '\n' :: more) = .ok (piece.extend ('\n' :: more)) := by
  by_cases hc : c = ':'
  · subst hc
    rcases text with _ | ⟨d, text⟩
    · cases h
      rfl
    · by_cases hd : d = ':'
      · subst hd
        cases h
        rfl
      · have hcolon : ∀ text, token ':' (d :: text) = .ok (mark .colon ':' (d :: text)) := by
          intro text
          rw [token]
          exact fun rest heq => absurd (List.cons.inj heq).1 hd
        rw [hcolon] at h
        cases h
        exact hcolon _
  · rw [token_of_ne hc] at h ⊢
    split at h
    · next kind hmark =>
      cases h
      rfl
    · next hmark =>
      split at h
      · next hquote =>
        have hslash : c ≠ '\\' := by
          rintro rfl
          simp at hquote
        split at h
        · next body rest hliteral =>
          cases h
          rw [if_pos hquote, literal_extend hslash hliteral]
          rfl
        · cases h
      · next hquote =>
        rw [if_neg hquote]
        split at h
        · next hdigit =>
          cases h
          rw [if_pos hdigit, run_extend _ (by decide)]
        · next hdigit =>
          rw [if_neg hdigit]
          split at h
          · next hstarts =>
            cases h
            rw [if_pos hstarts, run_extend _ (by decide)]
          · next hstarts =>
            cases h
            rw [if_neg hstarts]
            rfl

/-- What starts with no comment is a blank or a token. -/
lemma first_of_ne {c : Char} {text : List Char}
    (h : ∀ d ∈ text.head?, c = '/' → d ≠ '/' ∧ d ≠ '*') :
    first c text = if isBlank c then .ok ⟨none, [c], text⟩ else token c text := by
  rw [first]
  · rintro rest rfl rfl
    exact (h '/' rfl rfl).1 rfl
  · rintro rest rfl rfl
    exact (h '*' rfl rfl).2 rfl

/-- A piece of a text is a piece of the text with more lines below it. -/
lemma first_extend {c : Char} {text : List Char} {piece : Piece} (h : first c text = .ok piece)
    (more : List Char) :
    first c (text ++ '\n' :: more) = .ok (piece.extend ('\n' :: more)) := by
  by_cases hline : c = '/' ∧ text.head? = some '/'
  · obtain ⟨rfl, hhead⟩ := hline
    obtain ⟨text, rfl⟩ := List.head?_eq_some_iff.1 hhead
    cases h
    have hrun := run_extend (fun _ => none) (p := fun d => d != '\n') (by decide) '/'
      ('/' :: text) more
    exact congrArg Except.ok hrun
  by_cases hblock : c = '/' ∧ text.head? = some '*'
  · obtain ⟨rfl, hhead⟩ := hblock
    obtain ⟨text, rfl⟩ := List.head?_eq_some_iff.1 hhead
    cases hcomment : comment text with
    | none =>
      have herror : first '/' ('*' :: text) = .error .blockComment := by
        simp [first, isBlank, hcomment]
      rw [herror] at h
      cases h
    | some read =>
      have hread : first '/' ('*' :: text) = .ok ⟨none, '/' :: '*' :: read.1, read.2⟩ := by
        simp [first, isBlank, hcomment]
      rw [hread] at h
      cases h
      simp [first, isBlank, comment_extend hcomment, extend]
  · have hfirst : ∀ d ∈ text.head?, c = '/' → d ≠ '/' ∧ d ≠ '*' := by
      intro d hd hc
      exact ⟨fun heq => hline ⟨hc, heq ▸ hd⟩, fun heq => hblock ⟨hc, heq ▸ hd⟩⟩
    have hextended : ∀ d ∈ (text ++ '\n' :: more).head?, c = '/' → d ≠ '/' ∧ d ≠ '*' := by
      cases text with
      | nil => simp
      | cons d text => exact hfirst
    rw [first_of_ne hfirst] at h
    rw [first_of_ne hextended]
    split at h
    · next hblank =>
      cases h
      rw [if_pos hblank]
      rfl
    · next hblank => rw [if_neg hblank, token_extend h more]

end Piece

/-! ### Tokens in front of a line feed -/

/-- The number of lines that a text takes up. -/
def linesOf (source : String) : Nat :=
  source.toList.count '\n' + 1

/-- A text that can be read is read in front of a line feed, up to its end. -/
lemma lexFrom_newline {read tokens : List Token} {position : Position} {text : List Char}
    (h : lexFrom read position text = .ok tokens) (more : List Char) :
    lexFrom read position (text ++ '\n' :: more) =
      lexFrom tokens.dropLast.reverse ((position.afterAll text).after '\n') more := by
  fun_induction lexFrom read position text with
  | case1 read position =>
    cases h
    have hbreak : Piece.first '\n' more = .ok ⟨none, ['\n'], more⟩ := rfl
    rw [List.nil_append, lexFrom_of_ok hbreak]
    simp [Piece.token?]
  | case2 => cases h
  | case3 read position c text piece hfirst ih =>
    obtain ⟨front, hpiece, htext⟩ := Piece.first_fronts hfirst
    rw [List.cons_append, lexFrom_of_ok (Piece.first_extend hfirst more)]
    have hplace : position.afterAll (c :: text) =
        (position.afterAll piece.text).afterAll piece.rest := by
      rw [← Position.afterAll_append, hpiece, htext, List.cons_append]
    rw [hplace]
    exact ih h

/-- Where a text starts and what was read in front of it changes nothing in how it is read but
the places of its tokens. -/
lemma lexFrom_below (lines : Nat) (before read : List Token) (position : Position)
    (text : List Char) :
    lexFrom (read.map (Token.moved fun _ => Position.below lines) ++ before)
        (position.below lines) text =
      match lexFrom read position text with
      | .ok tokens => .ok (before.reverse ++ tokens.map (Token.moved fun _ => Position.below lines))
      | .error error => .error (error.moved (Position.below lines)) := by
  fun_induction lexFrom read position text with
  | case1 read position => simp [lexFrom, Token.endAt, Token.moved]
  | case2 read position c text fault hfirst =>
    rw [lexFrom_of_error hfirst]
    rfl
  | case3 read position c text piece hfirst ih =>
    rw [lexFrom_of_ok hfirst, Position.afterAll_below, ← ih]
    cases hkind : piece.kind <;> simp [Piece.token?, hkind, Token.moved]

/-- The token for the end of the text is always read. -/
lemma ne_nil_of_lexFrom {read tokens : List Token} {position : Position} {text : List Char}
    (h : lexFrom read position text = .ok tokens) : tokens ≠ [] := by
  fun_induction lexFrom read position text with
  | case1 =>
    cases h
    simp
  | case2 => cases h
  | case3 _ _ _ _ _ _ ih => exact ih h

/-- Behind a text and a line feed comes the first place, as many lines further down as the text
takes up. -/
lemma after_newline (text : List Char) :
    (Position.start.afterAll text).after '\n' =
      Position.start.below (text.count '\n' + 1) := by
  simp [Position.after, Position.below, Position.line_afterAll, Position.start]
  omega

/-- A text that can be read is read in front of a line feed, and the text below it is read as if
it stood alone, with its places further down. -/
lemma tokenize_newline {upper : String} {tokens : List Token} (h : tokenize upper = .ok tokens)
    (lower : String) :
    tokenize (upper ++ "\n" ++ lower) =
      match tokenize lower with
      | .ok others =>
        .ok (tokens.dropLast ++ others.map (Token.moved fun _ => Position.below (linesOf upper)))
      | .error error => .error (error.moved (Position.below (linesOf upper))) := by
  have htext : (upper ++ "\n" ++ lower).toList = upper.toList ++ '\n' :: lower.toList := by simp
  have hbelow := lexFrom_below (linesOf upper) tokens.dropLast.reverse [] Position.start
    lower.toList
  rw [List.reverse_reverse] at hbelow
  rw [tokenize, htext, lexFrom_newline h, after_newline]
  exact hbelow

end BindingSync.Binding
