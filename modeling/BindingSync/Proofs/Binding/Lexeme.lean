import BindingSync.Proofs.Binding.Loops
import BindingSync.Proofs.Binding.WellFormed
import BindingSync.Proofs.Text.Digits

/-!
# Texts made of lexemes

A text that is written on purpose is a list of lexemes: blanks and tokens.  The lexer takes the
lexemes off the text one after the other, provided that none of them runs on into the next: a
word or a number has to end where its lexeme does.  `Lexeme.Readable` says so, and
`lexFrom_textOf` that the tokens of a readable text are those of its lexemes.
-/

namespace BindingSync.Binding

open BindingSync.Text

/-- A blank, or a token with its text. -/
inductive Lexeme where
  | blank (c : Char)
  | token (kind : TokenKind) (text : String)
deriving DecidableEq, Repr

namespace Lexeme

/-- The characters of a lexeme. -/
def text : Lexeme → List Char
  | blank c => [c]
  | token _ text => text.toList

/-- What the lexeme is to the grammar; a blank is nothing. -/
def kind? : Lexeme → Option TokenKind
  | blank _ => none
  | token kind _ => some kind

/-- The text that lexemes make up. -/
def textOf (lexemes : List Lexeme) : List Char :=
  lexemes.flatMap text

/-- The tokens of lexemes that start at a place. -/
def tokensAt (position : Position) : List Lexeme → List Token
  | [] => []
  | blank c :: rest => tokensAt (position.after c) rest
  | token kind text :: rest =>
    ⟨kind, text, position⟩ :: tokensAt (position.afterAll text.toList) rest

/-- In front of the given text, the lexeme is the first piece that the lexer takes. -/
def Reads (lexeme : Lexeme) (rest : List Char) : Prop :=
  ∃ c more, lexeme.text = c :: more ∧
    Piece.first c (more ++ rest) = .ok ⟨lexeme.kind?, lexeme.text, rest⟩

/-- In front of the given text, the lexer takes the lexemes one after the other. -/
def Readable : List Lexeme → List Char → Prop
  | [], _ => True
  | lexeme :: lexemes, rest => lexeme.Reads (textOf lexemes ++ rest) ∧ Readable lexemes rest

/-! ### Lists of lexemes -/

@[simp] lemma textOf_nil : textOf [] = [] := rfl

@[simp] lemma textOf_cons (lexeme : Lexeme) (rest : List Lexeme) :
    textOf (lexeme :: rest) = lexeme.text ++ textOf rest := rfl

@[simp] lemma textOf_append (first second : List Lexeme) :
    textOf (first ++ second) = textOf first ++ textOf second :=
  List.flatMap_append

@[simp] lemma tokensAt_nil (position : Position) : tokensAt position [] = [] := rfl

@[simp] lemma tokensAt_blank (position : Position) (c : Char) (rest : List Lexeme) :
    tokensAt position (blank c :: rest) = tokensAt (position.after c) rest := rfl

@[simp] lemma tokensAt_token (position : Position) (kind : TokenKind) (text : String)
    (rest : List Lexeme) :
    tokensAt position (token kind text :: rest) =
      ⟨kind, text, position⟩ :: tokensAt (position.afterAll text.toList) rest := rfl

/-- The tokens of two lists of lexemes in a row; the second starts where the first ends. -/
@[simp] lemma tokensAt_append (position : Position) (first second : List Lexeme) :
    tokensAt position (first ++ second) =
      tokensAt position first ++ tokensAt (position.afterAll (textOf first)) second := by
  induction first generalizing position with
  | nil => rfl
  | cons lexeme rest ih =>
    cases lexeme with
    | blank c => exact ih _
    | token kind text => simp [ih, Lexeme.text, Position.afterAll_append]

/-- Lexemes in a row are readable if the first ones are in front of the others. -/
lemma readable_append {first second : List Lexeme} {rest : List Char} :
    Readable (first ++ second) rest ↔
      Readable first (textOf second ++ rest) ∧ Readable second rest := by
  induction first with
  | nil => simp [Readable]
  | cons lexeme others ih =>
    rw [List.cons_append, Readable, ih, Readable, textOf_append, List.append_assoc, and_assoc]

/-- The lexer reads the lexemes of a readable text, and goes on behind them. -/
lemma lexFrom_textOf {lexemes : List Lexeme} {rest : List Char} (h : Readable lexemes rest)
    (read : List Token) (position : Position) :
    lexFrom read position (textOf lexemes ++ rest) =
      lexFrom ((tokensAt position lexemes).reverse ++ read)
        (position.afterAll (textOf lexemes)) rest := by
  induction lexemes generalizing read position with
  | nil => rfl
  | cons lexeme lexemes ih =>
    obtain ⟨⟨c, more, htext, hfirst⟩, hrest⟩ := h
    have hsplit : textOf (lexeme :: lexemes) ++ rest = c :: (more ++ (textOf lexemes ++ rest)) := by
      rw [textOf_cons, htext, List.cons_append, List.cons_append, List.append_assoc]
    rw [hsplit, lexFrom_of_ok hfirst]
    simp only [ih hrest, Position.afterAll_append, textOf_cons]
    congr 1
    cases lexeme with
    | blank c => rfl
    | token kind text => simp [Piece.token?, kind?, Lexeme.text]

/-- A text of readable lexemes is read as their tokens. -/
lemma tokenize_of_readable {source : String} {lexemes : List Lexeme}
    (htext : source.toList = textOf lexemes) (h : Readable lexemes []) :
    tokenize source =
      .ok (tokensAt .start lexemes ++ [Token.endAt (Position.start.afterAll source.toList)]) := by
  have hread := lexFrom_textOf h [] .start
  rw [List.append_nil, List.append_nil, ← htext] at hread
  rw [tokenize, hread, lexFrom, List.reverse_cons, List.reverse_reverse]

/-! ### Single lexemes -/

/-- A text at whose front no word or number goes on. -/
def Ends (rest : List Char) : Prop :=
  ∀ c ∈ rest.head?, continuesNumber c = false

/-- What ends a number ends a word. -/
lemma Ends.word {rest : List Char} (h : Ends rest) : ∀ c ∈ rest.head?, continuesWord c = false :=
  fun c hc => by simpa [continuesNumber] using (Bool.or_eq_false_iff.1 (h c hc)).1

/-- Blanks are always read. -/
lemma reads_blank {c : Char} (h : isBlank c = true) (rest : List Char) : (blank c).Reads rest :=
  ⟨c, [], rfl, by unfold Piece.first; rw [if_pos h]; rfl⟩

/-- A mark is a token of its own whatever follows. -/
lemma first_of_mark {c : Char} {kind : TokenKind} (h : TokenKind.ofMark? c = some kind)
    (text : List Char) : Piece.first c text = .ok (Piece.mark kind c text) := by
  unfold TokenKind.ofMark? at h
  split at h <;> cases h <;> rfl

/-- Marks are always read. -/
lemma reads_mark {c : Char} {kind : TokenKind} (h : TokenKind.ofMark? c = some kind)
    (rest : List Char) : (token kind (String.singleton c)).Reads rest := by
  refine ⟨c, [], by simp [text], ?_⟩
  rw [List.nil_append, first_of_mark h]
  simp [Piece.mark, text, kind?]

/-- The scope mark is always read. -/
lemma reads_scope (rest : List Char) : (token .scope "::").Reads rest :=
  ⟨':', [':'], rfl, rfl⟩

/-- What starts a word is no mark. -/
lemma ofMark?_of_startsWord {c : Char} (h : startsWord c = true) : TokenKind.ofMark? c = none := by
  unfold TokenKind.ofMark?
  split <;> first | rfl | exact absurd h (by decide)

/-- What starts a word and no number starts nothing else. -/
lemma first_of_startsWord {c : Char} (hdigit : isDigit c = false) (h : startsWord c = true)
    (text : List Char) :
    Piece.first c text =
      .ok (Piece.run (fun word => some (.ofWord (String.ofList word))) continuesWord c text) := by
  have hother : ∀ d, startsWord d = false → c ≠ d := fun d hd heq => by
    rw [heq, hd] at h
    cases h
  have hblank : isBlank c = false := by
    simp [isBlank, hother ' ' (by decide), hother '\t' (by decide), hother '\r' (by decide),
      hother '\n' (by decide)]
  have htoken : Piece.token c text =
      .ok (Piece.run (fun word => some (.ofWord (String.ofList word))) continuesWord c text) := by
    unfold Piece.token
    split
    · exact absurd rfl (hother ':' (by decide))
    · exact absurd rfl (hother ':' (by decide))
    · simp [ofMark?_of_startsWord h, hother '"' (by decide), hother '\'' (by decide), hdigit, h]
  unfold Piece.first
  rw [hblank]
  split
  · next hyes => cases hyes
  · split
    · exact absurd rfl (hother '/' (by decide))
    · exact absurd rfl (hother '/' (by decide))
    · exact htoken

/-- A word is read if it ends with its lexeme. -/
lemma reads_word {word : String} {kind : TokenKind} {rest : List Char}
    (hstarts : ∃ c, word.toList.head? = some c ∧ isDigit c = false ∧ startsWord c = true)
    (hcontinues : ∀ c ∈ word.toList.tail, continuesWord c = true)
    (hkind : TokenKind.ofWord word = kind) (hrest : Ends rest) : (token kind word).Reads rest := by
  obtain ⟨c, hhead, hdigit, hstart⟩ := hstarts
  obtain ⟨more, hword⟩ : ∃ more, word.toList = c :: more := List.head?_eq_some_iff.1 hhead
  rw [hword] at hcontinues
  obtain ⟨htake, hdrop⟩ := takeWhile_append_of_head hcontinues hrest.word
  refine ⟨c, more, hword, ?_⟩
  rw [first_of_startsWord hdigit hstart, Piece.run]
  simp only [List.tail_cons] at htake hdrop
  rw [htake, hdrop, ← hword, String.ofList_toList, hkind]
  rfl

/-- A keyword is read if it ends with its lexeme. -/
lemma reads_keyword {word : String} {c : Char} {kind : TokenKind} {rest : List Char}
    (hhead : word.toList.head? = some c) (hdigit : isDigit c = false) (hstart : startsWord c = true)
    (hcontinues : word.toList.tail.all continuesWord = true) (hkind : TokenKind.ofWord word = kind)
    (hrest : Ends rest) : (token kind word).Reads rest :=
  reads_word ⟨c, hhead, hdigit, hstart⟩ (List.all_eq_true.1 hcontinues) hkind hrest

/-- An identifier is read if it ends with its lexeme. -/
lemma reads_identifier {word : String} {rest : List Char} (hword : IsIdentifier word)
    (hrest : Ends rest) : (token .identifier word).Reads rest :=
  reads_word hword.starts hword.continues hword.kind hrest

/-- What starts with a zero is a number. -/
lemma first_zero (text : List Char) :
    Piece.first '0' text = .ok (Piece.run (fun _ => some .number) continuesNumber '0' text) := by
  have hdigit : isDigit '0' = true := by decide
  simp [Piece.first, Piece.token, isBlank, TokenKind.ofMark?, hdigit]

/-- A number that starts with a zero is read if it ends with its lexeme. -/
lemma reads_number {more rest : List Char} (hcontinues : ∀ c ∈ more, continuesNumber c = true)
    (hrest : Ends rest) : (token .number (String.ofList ('0' :: more))).Reads rest := by
  obtain ⟨htake, hdrop⟩ := takeWhile_append_of_head hcontinues hrest
  refine ⟨'0', more, by simp [text], ?_⟩
  rw [first_zero, Piece.run, htake, hdrop]
  simp [text, kind?]

/-! ### Separated lexemes -/

/-- Groups of lexemes with a separator between them. -/
def separated (separator : List Lexeme) : List (List Lexeme) → List Lexeme
  | [] => []
  | first :: rest => first ++ rest.flatMap (separator ++ ·)

/-- Behind the first group comes the separator, and the other groups. -/
lemma separated_cons_cons (separator first second : List Lexeme) (rest : List (List Lexeme)) :
    separated separator (first :: second :: rest) =
      first ++ separator ++ separated separator (second :: rest) := by
  simp [separated]

/-- The text of separated groups has the text of the separator between those of the groups. -/
lemma textOf_separated (separator : List Lexeme) (groups : List (List Lexeme)) :
    textOf (separated separator groups) =
      (textOf separator).intercalate (groups.map textOf) := by
  induction groups with
  | nil => rfl
  | cons first rest ih =>
    cases rest with
    | nil => simp [separated]
    | cons second rest =>
      rw [separated_cons_cons, textOf_append, textOf_append, ih]
      simp [List.intercalate_cons_cons]

/-- What holds of the separator and of all groups holds of the separated groups. -/
lemma of_mem_separated {P : Lexeme → Prop} {separator : List Lexeme}
    {groups : List (List Lexeme)} (hseparator : ∀ lexeme ∈ separator, P lexeme)
    (hgroups : ∀ group ∈ groups, ∀ lexeme ∈ group, P lexeme) :
    ∀ lexeme ∈ separated separator groups, P lexeme := by
  cases groups with
  | nil => simp [separated]
  | cons first rest =>
    obtain ⟨hfirst, hrest⟩ := List.forall_mem_cons.1 hgroups
    intro lexeme hmem
    rcases List.mem_append.1 hmem with hmem | hmem
    · exact hfirst lexeme hmem
    · obtain ⟨group, hgroup, hmem⟩ := List.mem_flatMap.1 hmem
      rcases List.mem_append.1 hmem with hmem | hmem
      · exact hseparator lexeme hmem
      · exact hrest group hgroup lexeme hmem

/-- Separated groups are readable if each group is in front of every text of a class to which the
texts from a separator on belong, and the text behind the groups. -/
lemma readable_separated {P : List Char → Prop} {separator : List Lexeme}
    {groups : List (List Lexeme)} {rest : List Char}
    (hseparator : ∀ rest, Readable separator rest ∧ P (textOf separator ++ rest))
    (hgroups : ∀ group ∈ groups, ∀ rest, P rest → Readable group rest) (hrest : P rest) :
    Readable (separated separator groups) rest := by
  induction groups with
  | nil => trivial
  | cons first others ih =>
    obtain ⟨hfirst, hothers⟩ := List.forall_mem_cons.1 hgroups
    cases others with
    | nil => simpa [separated] using hfirst rest hrest
    | cons second others =>
      rw [separated_cons_cons, readable_append, readable_append]
      exact ⟨⟨hfirst _ (hseparator _).2, (hseparator _).1⟩, ih hothers⟩

end Lexeme

end BindingSync.Binding
