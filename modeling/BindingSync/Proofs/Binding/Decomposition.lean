import BindingSync.Proofs.Binding.TokenClasses

/-!
# Texts taken apart

A text is a list of tokens with gaps between them, and the gaps hold nothing but blanks and
comments.  The lexer finds exactly these tokens, each at the place that the characters before it
lead to; and it fails exactly where a gap is followed by a comment or a literal that is never closed
(`tokenize_iff_isScan`).

Both statements are about the same scan: from any place on, some segments, a gap and what is left
behind it (`IsScan`).  Every text has a scan behind which nothing is left or something is never
closed (`exists_scan`), and the lexer comes to the end of any scan (`lexFrom_of_scan`).
-/

namespace BindingSync.Binding

/-- The place behind a text: the line is told by the line feeds in the text, and the column by the
characters behind the last of them. -/
def placeBehind (text : List Char) : Position where
  line := 1 + text.count '\n'
  column := 1 + (text.reverse.takeWhile (· ≠ '\n')).length

/-- The places that are counted from the start of a text are those behind its fronts. -/
lemma afterAll_placeBehind (before text : List Char) :
    (placeBehind before).afterAll text = placeBehind (before ++ text) := by
  induction text generalizing before with
  | nil => rw [Position.afterAll_nil, List.append_nil]
  | cons c text ih =>
    have hstep : (placeBehind before).after c = placeBehind (before ++ [c]) := by
      by_cases hc : c = '\n' <;> simp [placeBehind, Position.after, hc] <;> omega
    rw [Position.afterAll_cons, hstep, ih, List.append_assoc, List.singleton_append]

/-- In front of the rest, the characters are blanks and comments, one after the other. -/
inductive IsGap : List Char → List Char → Prop
  | nil {rest : List Char} : IsGap [] rest
  | cons {text more rest : List Char} (hskipped : IsSkipped text (more ++ rest))
      (h : IsGap more rest) : IsGap (text ++ more) rest

/-- A token and the gap in front of it. -/
structure Segment where
  gap : List Char
  token : Token
deriving DecidableEq, Repr

namespace Segment

/-- The characters of a segment. -/
def text (segment : Segment) : List Char :=
  segment.gap ++ segment.token.text.toList

/-- The characters of segments in a row. -/
def textOf (segments : List Segment) : List Char :=
  segments.flatMap text

@[simp] lemma textOf_nil : textOf [] = [] := rfl

@[simp] lemma textOf_cons (segment : Segment) (segments : List Segment) :
    textOf (segment :: segments) = segment.text ++ textOf segments := rfl

/-- Behind some characters and in front of the rest, the segments stand in a row: each of them
starts with a gap, then its token follows, and the token stands where the characters before it
lead to. -/
def InRow (before rest : List Char) : List Segment → Prop
  | [] => True
  | segment :: segments =>
    IsGap segment.gap (segment.token.text.toList ++ (textOf segments ++ rest)) ∧
      IsToken segment.token.kind segment.token.text.toList (textOf segments ++ rest) ∧
      segment.token.position = placeBehind (before ++ segment.gap) ∧
      InRow (before ++ segment.text) rest segments

end Segment

open Segment

/-- Behind some characters, the text consists of segments, a gap and the rest. -/
structure IsScan (before text : List Char) (segments : List Segment) (gap rest : List Char) :
    Prop where
  text_eq : text = textOf segments ++ (gap ++ rest)
  inRow : InRow before (gap ++ rest) segments
  gap : IsGap gap rest

/-! ### The lexer follows a scan -/

variable {before text gap rest : List Char} {segments : List Segment} {kind? : Option TokenKind}

/-- A piece that is taken is read. -/
lemma lexFrom_of_takes (h : Piece.Takes kind? text rest) (read : List Token) (before : List Char) :
    lexFrom read (placeBehind before) (text ++ rest) =
      lexFrom ((kind?.map fun kind => ⟨kind, String.ofList text, placeBehind before⟩).toList ++ read)
        (placeBehind (before ++ text)) rest := by
  obtain ⟨c, more, rfl, hfirst⟩ := h
  rw [List.cons_append, lexFrom_of_ok hfirst, afterAll_placeBehind]
  rfl

/-- The lexer passes over a gap. -/
lemma lexFrom_of_gap (h : IsGap gap rest) (read : List Token) (before : List Char) :
    lexFrom read (placeBehind before) (gap ++ rest) =
      lexFrom read (placeBehind (before ++ gap)) rest := by
  induction h generalizing before with
  | nil => rw [List.nil_append, List.append_nil]
  | @cons text more rest hskipped _ ih =>
    rw [List.append_assoc, lexFrom_of_takes (Piece.takes_of_isSkipped hskipped)]
    simp only [Option.map_none, Option.toList_none, List.nil_append]
    rw [ih, List.append_assoc]

/-- The lexer reads the tokens of segments that stand in a row. -/
lemma lexFrom_of_inRow (h : InRow before rest segments) (read : List Token) :
    lexFrom read (placeBehind before) (textOf segments ++ rest) =
      lexFrom ((segments.map Segment.token).reverse ++ read)
        (placeBehind (before ++ textOf segments)) rest := by
  induction segments generalizing before read with
  | nil => simp
  | cons segment segments ih =>
    obtain ⟨hgap, htoken, hposition, hrow⟩ := h
    have hsegment : textOf (segment :: segments) ++ rest =
        segment.gap ++ (segment.token.text.toList ++ (textOf segments ++ rest)) := by
      simp [Segment.text]
    have hread : (⟨segment.token.kind, String.ofList segment.token.text.toList,
        placeBehind (before ++ segment.gap)⟩ : Token) = segment.token := by
      rw [String.ofList_toList, ← hposition]
    rw [hsegment, lexFrom_of_gap hgap, lexFrom_of_takes (Piece.takes_of_isToken htoken)]
    simp only [Option.map_some, Option.toList_some, hread, List.append_assoc]
    rw [← Segment.text, ih hrow]
    simp

/-- The lexer comes to the end of a scan. -/
lemma lexFrom_of_scan (h : IsScan before text segments gap rest) (read : List Token) :
    lexFrom read (placeBehind before) text =
      lexFrom ((segments.map Segment.token).reverse ++ read)
        (placeBehind (before ++ (textOf segments ++ gap))) rest := by
  rw [h.text_eq, lexFrom_of_inRow h.inRow, lexFrom_of_gap h.gap, List.append_assoc]

/-! ### Every text has a scan -/

/-- What is skipped in front of a scan belongs to its first gap. -/
lemma IsScan.skip {skipped : List Char} (hskipped : IsSkipped skipped text)
    (h : IsScan (before ++ skipped) text segments gap rest) :
    ∃ segments' gap', IsScan before (skipped ++ text) segments' gap' rest := by
  obtain ⟨rfl, hrow, hgap⟩ := h
  cases segments with
  | nil =>
    have hfront : IsGap (skipped ++ gap) rest := .cons hskipped hgap
    exact ⟨[], skipped ++ gap, by simp, trivial, hfront⟩
  | cons segment segments =>
    obtain ⟨hfirst, htoken, hposition, hrow⟩ := hrow
    rw [textOf_cons, Segment.text, List.append_assoc, List.append_assoc] at hskipped
    refine ⟨⟨skipped ++ segment.gap, segment.token⟩ :: segments, gap, by simp [Segment.text], ?_,
      hgap⟩
    refine ⟨.cons hskipped hfirst, htoken, ?_, ?_⟩
    · rwa [← List.append_assoc]
    · simpa [Segment.text] using hrow

/-- A token in front of a scan is one more segment. -/
lemma IsScan.token {kind : TokenKind} {word : List Char} (htoken : IsToken kind word text)
    (h : IsScan (before ++ word) text segments gap rest) :
    ∃ segments' gap', IsScan before (word ++ text) segments' gap' rest := by
  obtain ⟨rfl, hrow, hgap⟩ := h
  refine ⟨⟨[], ⟨kind, String.ofList word, placeBehind before⟩⟩ :: segments, gap, ?_, ?_, hgap⟩
  · simp [Segment.text]
  · refine ⟨.nil, ?_, by simp, by simpa [Segment.text] using hrow⟩
    simpa using htoken

/-- From any place on, a text can be taken apart until nothing is left or something is never
closed. -/
lemma exists_scan (before text : List Char) :
    ∃ segments gap rest, IsScan before text segments gap rest ∧
      (rest = [] ∨ ∃ fault, IsUnclosed fault rest) := by
  induction hlength : text.length using Nat.strong_induction_on generalizing before text with
  | h length ih =>
    cases text with
    | nil => exact ⟨[], [], [], ⟨rfl, trivial, .nil⟩, .inl rfl⟩
    | cons c text =>
      cases hfirst : Piece.first c text with
      | error fault =>
        exact ⟨[], [], c :: text, ⟨rfl, trivial, .nil⟩,
          .inr ⟨fault, Piece.first_eq_error_iff.1 hfirst⟩⟩
      | ok piece =>
        obtain ⟨more, hpiece, htext⟩ := Piece.first_fronts hfirst
        have hsplit : c :: text = piece.text ++ piece.rest := by rw [hpiece, htext]; rfl
        have hshorter : piece.rest.length < length := by
          rw [← hlength, hsplit, hpiece, List.length_append, List.length_cons]
          omega
        obtain ⟨segments, gap, rest, hscan, hrest⟩ :=
          ih _ hshorter (before ++ piece.text) piece.rest rfl
        rw [hsplit]
        obtain ⟨-, hskipped⟩ | ⟨kind, -, htoken⟩ := Piece.describes_of_first hfirst
        · obtain ⟨segments, gap, hscan⟩ := hscan.skip hskipped
          exact ⟨segments, gap, rest, hscan, hrest⟩
        · obtain ⟨segments, gap, hscan⟩ := hscan.token htoken
          exact ⟨segments, gap, rest, hscan, hrest⟩

/-! ### The tokens of a text -/

/-- The end of a text is no token of a class. -/
lemma IsToken.kind_ne_eof {kind : TokenKind} {word : List Char} (h : IsToken kind word rest) :
    kind ≠ .eof := by
  cases h with
  | mark h =>
    rintro rfl
    unfold TokenKind.ofMark? at h
    split at h <;> cases h
  | word =>
    unfold TokenKind.ofWord
    split <;> simp
  | scope => simp
  | colon => simp
  | string => simp
  | number => simp
  | symbol => simp

/-- Each segment in a row has a token of a class, at the place that the text in front of it leads
to. -/
lemma kind_ne_eof_of_inRow (h : InRow before rest segments) :
    ∀ segment ∈ segments, segment.token.kind ≠ .eof := by
  induction segments generalizing before with
  | nil => simp
  | cons segment segments ih =>
    obtain ⟨-, htoken, -, hrow⟩ := h
    exact List.forall_mem_cons.2 ⟨htoken.kind_ne_eof, ih hrow⟩

/-- The lexer gives the tokens of a scan of the whole text. -/
lemma tokenize_of_scan {source : String} (h : IsScan [] source.toList segments gap []) :
    tokenize source =
      .ok (segments.map Segment.token ++ [Token.endAt (placeBehind source.toList)]) := by
  have hread := lexFrom_of_scan h []
  have hwhole : source.toList = textOf segments ++ gap := by
    rw [h.text_eq, List.append_nil]
  rw [List.nil_append, ← hwhole, List.append_nil] at hread
  rw [tokenize, show Position.start = placeBehind [] from rfl, hread, lexFrom]
  simp

/-- The lexer fails where a scan comes to something that is never closed. -/
lemma tokenize_of_unclosed {source : String} {fault : LexFault}
    (h : IsScan [] source.toList segments gap rest) (hunclosed : IsUnclosed fault rest) :
    tokenize source = .error ⟨fault, placeBehind (textOf segments ++ gap)⟩ := by
  obtain ⟨c, text, rfl⟩ : ∃ c text, rest = c :: text := by
    cases hunclosed with
    | comment => exact ⟨_, _, rfl⟩
    | literal => exact ⟨_, _, rfl⟩
  rw [tokenize, show Position.start = placeBehind [] from rfl, lexFrom_of_scan h,
    lexFrom_of_error (Piece.first_eq_error_iff.2 hunclosed), List.nil_append]

/-- The lexer loses and invents nothing.  It gives tokens if and only if the text consists of these
tokens with gaps of blanks and comments in front of each and behind the last, where each token
belongs to its class and is as long as it can be, and stands at the place to which the characters
before it lead; and behind them comes the one token for the end of the text.  It fails if and only
if tokens and gaps of that kind lead to a comment or a literal that is never closed, and then with
the place of that. -/
theorem tokenize_iff_isScan (source : String) :
    (∀ tokens, tokenize source = .ok tokens ↔
      ∃ segments gap, IsScan [] source.toList segments gap [] ∧
        (∀ segment ∈ segments, segment.token.kind ≠ .eof) ∧
        tokens = segments.map Segment.token ++ [⟨.eof, "", placeBehind source.toList⟩]) ∧
      ∀ error, tokenize source = .error error ↔
        ∃ segments gap rest, IsScan [] source.toList segments gap rest ∧
          IsUnclosed error.fault rest ∧ error.position = placeBehind (textOf segments ++ gap) := by
  obtain ⟨segments, gap, rest, hscan, hrest⟩ := exists_scan [] source.toList
  constructor
  · intro tokens
    constructor
    · intro htokens
      rcases hrest with rfl | ⟨fault, hunclosed⟩
      · refine ⟨segments, gap, hscan, kind_ne_eof_of_inRow hscan.inRow, ?_⟩
        rw [tokenize_of_scan hscan] at htokens
        exact (Except.ok.inj htokens).symm
      · rw [tokenize_of_unclosed hscan hunclosed] at htokens
        cases htokens
    · rintro ⟨segments, gap, hscan, -, rfl⟩
      exact tokenize_of_scan hscan
  · intro error
    constructor
    · intro herror
      rcases hrest with rfl | ⟨fault, hunclosed⟩
      · rw [tokenize_of_scan hscan] at herror
        cases herror
      · rw [tokenize_of_unclosed hscan hunclosed] at herror
        cases herror
        exact ⟨segments, gap, rest, hscan, hunclosed, rfl⟩
    · rintro ⟨segments, gap, rest, hscan, hunclosed, hposition⟩
      rw [tokenize_of_unclosed hscan hunclosed, ← hposition]

/-- Comment openers in literals and quotes in comments mean nothing, and a comment is not closed by
the star that opens it. -/
example : (tokenize "a/*/'*/\"/*\\\n\" classy::x1.5½ // '").toOption.map (List.map Token.text) =
    some ["a", "\"/*\\\n\"", "classy", "::", "x1", ".", "5½", ""] := by
  decide +kernel

end BindingSync.Binding
