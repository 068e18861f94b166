import BindingSync.Proofs.Binding.Lexeme
import BindingSync.Proofs.Binding.Lines

/-!
# Classes of tokens and of what is skipped

The lexer is a function; here is what it should find.  A token is described by its characters and
by the text behind it, which only matters for where a word, a number or a colon ends
(`IsToken`).  In the same way it is described what is skipped: a blank, or a comment up to where it
ends (`IsSkipped`).  A text that starts with a comment or a literal without an end is `IsUnclosed`.

The three descriptions share out all texts: the first piece of a text that is not empty is the one
that they describe (`Piece.describes_of_first`, `Piece.takes_of_isToken`,
`Piece.takes_of_isSkipped`), and there is no piece exactly if the text starts with something that is
never closed (`Piece.first_eq_error_iff`).
-/

namespace BindingSync.Binding

open BindingSync.Text

/-! ### The classes -/

/-- What stands between the quotes of a literal: any character behind a backslash, and other
characters that are neither the quote nor a line feed. -/
inductive IsLiteralBody (quote : Char) : List Char → Prop
  | nil : IsLiteralBody quote []
  | escaped {c : Char} {body : List Char} (h : IsLiteralBody quote body) :
      IsLiteralBody quote ('\\' :: c :: body)
  | plain {c : Char} {body : List Char} (hquote : c ≠ quote) (hbreak : c ≠ '\n')
      (hslash : c ≠ '\\') (h : IsLiteralBody quote body) : IsLiteralBody quote (c :: body)

/-- A quote starts and ends a literal. -/
def IsQuote (c : Char) : Prop :=
  c = '"' ∨ c = '\''

instance (c : Char) : Decidable (IsQuote c) :=
  inferInstanceAs (Decidable (_ ∨ _))

/-- A quote is no backslash. -/
lemma IsQuote.ne_slash {c : Char} (h : IsQuote c) : c ≠ '\\' := by
  rintro rfl
  revert h
  decide

/-- The character is no part of any larger token, and starts neither a comment nor a blank. -/
structure IsSymbol (c : Char) (rest : List Char) : Prop where
  blank : isBlank c = false
  mark : TokenKind.ofMark? c = none
  colon : c ≠ ':'
  quote : ¬ IsQuote c
  digit : isDigit c = false
  word : startsWord c = false
  comment : c = '/' → ∀ d ∈ rest.head?, d ≠ '/' ∧ d ≠ '*'

/-- In front of the rest, the characters are a token of the kind. -/
inductive IsToken : TokenKind → List Char → List Char → Prop
  | mark {kind : TokenKind} {c : Char} {rest : List Char} (h : TokenKind.ofMark? c = some kind) :
      IsToken kind [c] rest
  | scope {rest : List Char} : IsToken .scope [':', ':'] rest
  | colon {rest : List Char} (h : ∀ d ∈ rest.head?, d ≠ ':') : IsToken .colon [':'] rest
  | string {quote : Char} {body rest : List Char} (hquote : IsQuote quote)
      (h : IsLiteralBody quote body) : IsToken .string (quote :: (body ++ [quote])) rest
  | number {c : Char} {more rest : List Char} (hstarts : isDigit c = true)
      (hcontinues : ∀ d ∈ more, continuesNumber d = true)
      (hmaximal : ∀ d ∈ rest.head?, continuesNumber d = false) : IsToken .number (c :: more) rest
  | word {c : Char} {more rest : List Char} (hdigit : isDigit c = false)
      (hstarts : startsWord c = true) (hcontinues : ∀ d ∈ more, continuesWord d = true)
      (hmaximal : ∀ d ∈ rest.head?, continuesWord d = false) :
      IsToken (.ofWord (String.ofList (c :: more))) (c :: more) rest
  | symbol {c : Char} {rest : List Char} (h : IsSymbol c rest) : IsToken .symbol [c] rest

/-- In front of the rest, the characters are a blank or a comment: one that runs up to a line feed
or the end of the text, or one that is closed at its first `*/`. -/
inductive IsSkipped : List Char → List Char → Prop
  | blank {c : Char} {rest : List Char} (h : isBlank c = true) : IsSkipped [c] rest
  | line {body rest : List Char} (hbody : ∀ c ∈ body, c ≠ '\n') (hrest : ∀ c ∈ rest.head?, c = '\n') :
      IsSkipped ('/' :: '/' :: body) rest
  | block {body rest : List Char} (h : ¬ ['*', '/'] <:+: body) :
      IsSkipped ('/' :: '*' :: (body ++ ['*', '/'])) rest

/-- The text starts with a comment or a literal that is never closed: a `/*` without a `*/` behind
it, or a quote that no other quote matches before a line feed or the end. -/
inductive IsUnclosed : LexFault → List Char → Prop
  | comment {text : List Char} (h : ¬ ['*', '/'] <:+: text) :
      IsUnclosed .blockComment ('/' :: '*' :: text)
  | literal {quote : Char} {text : List Char} (hquote : IsQuote quote)
      (h : ∀ body rest, IsLiteralBody quote body → text ≠ body ++ quote :: rest) :
      IsUnclosed .stringLiteral (quote :: text)

namespace Piece

/-! ### Comments and literals -/

/-- A comment ends at its first `*/`. -/
lemma comment_eq_some_iff {text whole rest : List Char} :
    comment text = some (whole, rest) ↔
      ∃ body, ¬ ['*', '/'] <:+: body ∧ whole = body ++ ['*', '/'] ∧
        text = body ++ '*' :: '/' :: rest := by
  constructor
  · intro h
    fun_induction comment text generalizing whole with
    | case1 rest' =>
      cases h
      exact ⟨[], by simp, rfl, rfl⟩
    | case2 c text hopen ih =>
      obtain ⟨⟨whole', rest'⟩, hwhole, heq⟩ := Option.map_eq_some_iff.1 h
      cases heq
      obtain ⟨body, hbody, rfl, rfl⟩ := ih hwhole
      refine ⟨c :: body, ?_, rfl, rfl⟩
      intro hinfix
      rcases List.infix_cons_iff.1 hinfix with ⟨more, hprefix⟩ | hinside
      · cases hprefix
        exact hopen _ rfl rfl
      · exact hbody hinside
    | case3 => cases h
  · rintro ⟨body, hbody, rfl, rfl⟩
    induction body with
    | nil => rfl
    | cons c body ih =>
      have hinner := ih fun hinfix => hbody (List.infix_cons_iff.2 (.inr hinfix))
      have hopen : ∀ more, c = '*' → body ++ '*' :: '/' :: rest = '/' :: more → False := by
        intro more hc hmore
        cases body with
        | nil => cases hmore
        | cons d body =>
          obtain ⟨rfl, -⟩ := List.cons.inj hmore
          exact hbody ⟨[], body, by rw [hc]; rfl⟩
      rw [List.cons_append, comment.eq_2 _ _ hopen, hinner]
      rfl

/-- A comment without a `*/` has no end. -/
lemma comment_eq_none_iff {text : List Char} : comment text = none ↔ ¬ ['*', '/'] <:+: text := by
  fun_induction comment text with
  | case1 rest => simp [List.infix_cons_iff]
  | case2 c rest hopen ih =>
    have hfront : ¬ ['*', '/'] <+: c :: rest := by
      rintro ⟨more, hprefix⟩
      cases hprefix
      exact hopen more rfl rfl
    rw [Option.map_eq_none_iff, ih, List.infix_cons_iff, not_or, and_iff_right hfront]
  | case3 => simp

/-- A literal ends at the first quote that is not escaped, if no line feed comes before. -/
lemma literal_eq_some_iff {quote : Char} (hquote : quote ≠ '\\') {text whole rest : List Char} :
    literal quote text = some (whole, rest) ↔
      ∃ body, IsLiteralBody quote body ∧ whole = body ++ [quote] ∧
        text = body ++ quote :: rest := by
  constructor
  · intro h
    fun_induction literal quote text generalizing whole with
    | case1 => cases h
    | case2 c text ih =>
      obtain ⟨⟨whole', rest'⟩, hwhole, heq⟩ := Option.map_eq_some_iff.1 h
      cases heq
      obtain ⟨body, hbody, rfl, rfl⟩ := ih hwhole
      exact ⟨'\\' :: c :: body, .escaped hbody, rfl, rfl⟩
    | case3 text _ =>
      cases h
      exact ⟨[], .nil, rfl, rfl⟩
    | case4 => cases h
    | case5 c text hescape hc hbreak ih =>
      obtain ⟨⟨whole', rest'⟩, hwhole, heq⟩ := Option.map_eq_some_iff.1 h
      cases heq
      obtain ⟨body, hbody, rfl, rfl⟩ := ih hwhole
      have hslash : c ≠ '\\' := by
        rintro rfl
        cases body with
        | nil => exact hescape quote _ rfl rfl
        | cons d body => exact hescape d _ rfl rfl
      exact ⟨c :: body, .plain hc hbreak hslash hbody, rfl, rfl⟩
  · rintro ⟨body, hbody, rfl, rfl⟩
    induction hbody with
    | nil => rw [List.nil_append, literal_cons hquote, if_pos rfl]; rfl
    | @escaped c body _ ih =>
      rw [List.cons_append, List.cons_append, literal, ih]
      rfl
    | @plain c body hc hbreak hslash _ ih =>
      rw [List.cons_append, literal_cons hslash, if_neg hc, if_neg hbreak, ih]
      rfl

/-- A literal without a matching quote has no end. -/
lemma literal_eq_none_iff {quote : Char} (hquote : quote ≠ '\\') {text : List Char} :
    literal quote text = none ↔
      ∀ body rest, IsLiteralBody quote body → text ≠ body ++ quote :: rest := by
  rw [Option.eq_none_iff_forall_ne_some]
  constructor
  · intro h body rest hbody htext
    exact h (body ++ [quote], rest) ((literal_eq_some_iff hquote).2 ⟨body, hbody, rfl, htext⟩)
  · rintro h ⟨whole, rest⟩ hliteral
    obtain ⟨body, hbody, -, htext⟩ := (literal_eq_some_iff hquote).1 hliteral
    exact h body rest hbody htext

/-! ### The first piece of a text -/

/-- In front of the rest, the lexer takes the characters as one piece. -/
def Takes (kind : Option TokenKind) (text rest : List Char) : Prop :=
  ∃ c more, text = c :: more ∧ first c (more ++ rest) = .ok ⟨kind, text, rest⟩

variable {c : Char} {kind : TokenKind} {text rest : List Char} {piece : Piece}

/-- A run of characters of a class is as long as it can be. -/
lemma run_eq {p : Char → Bool} {kinds : List Char → Option TokenKind} {more : List Char}
    (hmore : ∀ d ∈ more, p d = true) (hrest : ∀ d ∈ rest.head?, p d = false) :
    run kinds p c (more ++ rest) = ⟨kinds (c :: more), c :: more, rest⟩ := by
  obtain ⟨htake, hdrop⟩ := takeWhile_append_of_head hmore hrest
  rw [run, htake, hdrop]

/-- Behind a run of characters of a class there is none of them. -/
lemma eq_false_of_mem_head?_dropWhile {p : Char → Bool} {d : Char}
    (h : d ∈ (text.dropWhile p).head?) : p d = false := by
  have hnot := List.head?_dropWhile_not p text
  rwa [Option.mem_def.1 h] at hnot

/-- A colon is a token of its own if no other colon follows. -/
lemma token_colon (h : ∀ d ∈ text.head?, d ≠ ':') : token ':' text = .ok (mark .colon ':' text) := by
  cases text with
  | nil => rfl
  | cons d text =>
    have hd : d ≠ ':' := h d rfl
    rw [token]
    exact fun rest heq => absurd (List.cons.inj heq).1 hd

/-- What the lexer takes as a token is one. -/
lemma isToken_of_token (hblank : isBlank c = false)
    (hcomment : c = '/' → ∀ d ∈ text.head?, d ≠ '/' ∧ d ≠ '*') (h : token c text = .ok piece) :
    ∃ kind, piece.kind = some kind ∧ IsToken kind piece.text piece.rest := by
  by_cases hcolon : c = ':'
  · subst hcolon
    by_cases hnext : ∀ d ∈ text.head?, d ≠ ':'
    · rw [token_colon hnext] at h
      cases h
      exact ⟨_, rfl, .colon hnext⟩
    · push Not at hnext
      obtain ⟨d, hd, rfl⟩ := hnext
      obtain ⟨text, rfl⟩ := List.head?_eq_some_iff.1 hd
      cases h
      exact ⟨_, rfl, .scope⟩
  rw [token_of_ne hcolon] at h
  split at h
  · next kind hmark =>
    cases h
    exact ⟨_, rfl, .mark hmark⟩
  · next hmark =>
    split at h
    · next hquote =>
      have hquote : IsQuote c := by simpa [IsQuote] using hquote
      split at h
      · next whole rest hliteral =>
        cases h
        obtain ⟨body, hbody, rfl, -⟩ := (literal_eq_some_iff hquote.ne_slash).1 hliteral
        exact ⟨_, rfl, .string hquote hbody⟩
      · cases h
    · next hquote =>
      have hquote : ¬ IsQuote c := by simpa [IsQuote] using hquote
      split at h
      · next hdigit =>
        cases h
        exact ⟨_, rfl, .number hdigit (fun d => List.mem_takeWhile_imp)
          fun d => eq_false_of_mem_head?_dropWhile⟩
      · next hdigit =>
        rw [Bool.not_eq_true] at hdigit
        split at h
        · next hstarts =>
          cases h
          exact ⟨_, rfl, .word hdigit hstarts (fun d => List.mem_takeWhile_imp)
            fun d => eq_false_of_mem_head?_dropWhile⟩
        · next hstarts =>
          rw [Bool.not_eq_true] at hstarts
          cases h
          exact ⟨_, rfl, .symbol ⟨hblank, hmark, hcolon, hquote, hdigit, hstarts, hcomment⟩⟩

/-- Where there is no token, a literal is never closed. -/
lemma isUnclosed_of_token {fault : LexFault} (h : token c text = .error fault) :
    IsUnclosed fault (c :: text) := by
  by_cases hcolon : c = ':'
  · subst hcolon
    unfold token at h
    split at h <;> cases h
  rw [token_of_ne hcolon] at h
  split at h
  · cases h
  · split at h
    · next hquote =>
      have hquote : IsQuote c := by simpa [IsQuote] using hquote
      split at h
      · cases h
      · next hnone =>
        cases h
        exact .literal hquote ((literal_eq_none_iff hquote.ne_slash).1 hnone)
    · split at h
      · cases h
      · split at h <;> cases h

/-- A comment to the end of its line is skipped. -/
lemma first_line (text : List Char) :
    first '/' ('/' :: text) =
      .ok ⟨none, '/' :: '/' :: text.takeWhile (· != '\n'), text.dropWhile (· != '\n')⟩ := by
  simp [first, isBlank, run]

/-- A comment is skipped up to its end, if it has one. -/
lemma first_block (text : List Char) :
    first '/' ('*' :: text) =
      match comment text with
      | some (body, rest) => .ok ⟨none, '/' :: '*' :: body, rest⟩
      | none => .error .blockComment := by
  simp only [first, isBlank]
  rfl

/-- A quote starts a literal, if that has an end. -/
lemma first_of_quote (h : IsQuote c) (text : List Char) :
    first c text =
      match literal c text with
      | some (body, rest) => .ok ⟨some .string, c :: body, rest⟩
      | none => .error .stringLiteral := by
  rcases h with rfl | rfl <;> rfl

/-- A digit is no blank, no mark, no colon, no quote and no slash. -/
lemma first_of_digit (h : isDigit c = true) (text : List Char) :
    first c text = .ok (run (fun _ => some .number) continuesNumber c text) := by
  have hother : ∀ d, isDigit d = false → c ≠ d := by
    rintro d hd rfl
    rw [h] at hd
    cases hd
  have hblank : isBlank c = false := by
    simp [isBlank, hother ' ' (by decide), hother '\t' (by decide), hother '\r' (by decide),
      hother '\n' (by decide)]
  have hmark : TokenKind.ofMark? c = none := by
    unfold TokenKind.ofMark?
    split <;> first | rfl | exact absurd h (by decide)
  rw [first_of_ne fun d _ hc => absurd hc (hother '/' (by decide)), if_neg (by simp [hblank]),
    token_of_ne (hother ':' (by decide)), hmark]
  simp [hother '"' (by decide), hother '\'' (by decide), h]

/-- A symbol is a token of its own. -/
lemma first_of_symbol (h : IsSymbol c text) : first c text = .ok (mark .symbol c text) := by
  have hquote : ¬ (c = '"' ∨ c = '\'') := h.quote
  rw [first_of_ne fun d hd hc => h.comment hc d hd, if_neg (by simp [h.blank]),
    token_of_ne h.colon, h.mark]
  simp [hquote, h.digit, h.word]

/-- What the lexer takes off a text is a token, or else it is skipped. -/
lemma describes_of_first (h : first c text = .ok piece) :
    (piece.kind = none ∧ IsSkipped piece.text piece.rest) ∨
      ∃ kind, piece.kind = some kind ∧ IsToken kind piece.text piece.rest := by
  by_cases hcomment : c = '/' → ∀ d ∈ text.head?, d ≠ '/' ∧ d ≠ '*'
  · rw [first_of_ne fun d hd hc => hcomment hc d hd] at h
    split at h
    · next hblank =>
      cases h
      exact .inl ⟨rfl, .blank hblank⟩
    · next hblank =>
      rw [Bool.not_eq_true] at hblank
      exact .inr (isToken_of_token hblank hcomment h)
  push Not at hcomment
  obtain ⟨rfl, d, hd, hopen⟩ := hcomment
  obtain ⟨text, rfl⟩ := List.head?_eq_some_iff.1 hd
  by_cases hline : d = '/'
  · subst hline
    rw [first_line] at h
    cases h
    refine .inl ⟨rfl, .line ?_ ?_⟩
    · intro d hd
      simpa using List.mem_takeWhile_imp hd
    · intro d hd
      simpa using eq_false_of_mem_head?_dropWhile hd
  · obtain rfl := hopen hline
    rw [first_block] at h
    split at h
    · next whole rest hcomment =>
      cases h
      obtain ⟨body, hbody, rfl, -⟩ := comment_eq_some_iff.1 hcomment
      exact .inl ⟨rfl, .block hbody⟩
    · cases h

/-- A token is taken as a piece of its kind. -/
lemma takes_of_isToken (h : IsToken kind text rest) : Takes (some kind) text rest := by
  cases h with
  | mark h => exact ⟨_, [], rfl, Lexeme.first_of_mark h rest⟩
  | scope => exact ⟨_, [':'], rfl, rfl⟩
  | colon h =>
    refine ⟨':', [], rfl, ?_⟩
    rw [List.nil_append, first_of_ne (by simp), if_neg (by decide), token_colon h]
    rfl
  | @string quote body _ hquote h =>
    refine ⟨quote, body ++ [quote], rfl, ?_⟩
    have hliteral : literal quote (body ++ [quote] ++ rest) = some (body ++ [quote], rest) :=
      (literal_eq_some_iff hquote.ne_slash).2 ⟨body, h, rfl, by simp⟩
    rw [first_of_quote hquote, hliteral]
  | number hstarts hcontinues hmaximal =>
    refine ⟨_, _, rfl, ?_⟩
    rw [first_of_digit hstarts, run_eq hcontinues hmaximal]
  | word hdigit hstarts hcontinues hmaximal =>
    refine ⟨_, _, rfl, ?_⟩
    rw [Lexeme.first_of_startsWord hdigit hstarts, run_eq hcontinues hmaximal]
  | symbol h => exact ⟨_, [], rfl, first_of_symbol h⟩

/-- A blank or a comment is taken as a piece that is no token. -/
lemma takes_of_isSkipped (h : IsSkipped text rest) : Takes none text rest := by
  cases h with
  | @blank c _ h =>
    refine ⟨c, [], rfl, ?_⟩
    unfold first
    rw [if_pos h]
    rfl
  | @line body _ hbody hrest =>
    refine ⟨'/', '/' :: body, rfl, ?_⟩
    obtain ⟨htake, hdrop⟩ := takeWhile_append_of_head (p := (· != '\n')) (by simpa using hbody)
      (by simpa using hrest)
    rw [List.cons_append, first_line, htake, hdrop]
  | @block body _ h =>
    refine ⟨'/', '*' :: (body ++ ['*', '/']), rfl, ?_⟩
    have hcomment : comment (body ++ ['*', '/'] ++ rest) = some (body ++ ['*', '/'], rest) :=
      comment_eq_some_iff.2 ⟨body, h, rfl, by simp⟩
    rw [List.cons_append, first_block, hcomment]

/-- There is no piece at the front of a text exactly if it starts with something that is never
closed. -/
lemma first_eq_error_iff {fault : LexFault} :
    first c text = .error fault ↔ IsUnclosed fault (c :: text) := by
  constructor
  · intro h
    by_cases hcomment : c = '/' → ∀ d ∈ text.head?, d ≠ '/' ∧ d ≠ '*'
    · rw [first_of_ne fun d hd hc => hcomment hc d hd] at h
      split at h
      · cases h
      · exact isUnclosed_of_token h
    push Not at hcomment
    obtain ⟨rfl, d, hd, hopen⟩ := hcomment
    obtain ⟨text, rfl⟩ := List.head?_eq_some_iff.1 hd
    by_cases hline : d = '/'
    · subst hline
      rw [first_line] at h
      cases h
    · obtain rfl := hopen hline
      rw [first_block] at h
      split at h
      · cases h
      · next hnone =>
        cases h
        exact .comment (comment_eq_none_iff.1 hnone)
  · intro h
    cases h with
    | comment h => rw [first_block, comment_eq_none_iff.2 h]
    | literal hquote h => rw [first_of_quote hquote, (literal_eq_none_iff hquote.ne_slash).2 h]

end Piece

end BindingSync.Binding
