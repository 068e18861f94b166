import Mathlib.Logic.Function.Iterate
import Mathlib.Logic.Relation
import BindingSync.Proofs.Binding.Blocks
import BindingSync.Proofs.Binding.Composition
import BindingSync.Proofs.Binding.FunctionGrammar
import BindingSync.Proofs.Text.Integers

/-!
# The scans of a file and of a body

A file is scanned with a cursor, and so is each body that is found in it.  One turn of a scan is a
relation between cursors (`FileTurn`, `BodyTurn`): it takes what a rule takes, or one token.  Every
turn moves the cursor on and none moves it behind the token for the end of the text, so a scan comes
to that token, and on its way there is a token wherever one is looked for (`Advances`).  The only
place at which the scan of a file stops before is a class block that is never closed (`LeavesOpen`),
and that is what the error is about (`parse_course`).
-/

namespace BindingSync.Binding

open BindingSync.Text
open Relation (ReflTransGen)
open Grammar (blockStart linkAttribute classHeader function body)

/-! ### Turns of a scan -/

/-- The cursor at the first of some tokens. -/
def Cursor.atStart (tokens : List Token) : Cursor where
  tokens := tokens

/-- One turn of the scan of a file: a class block is taken up to the end of its body, or an attribute
block or a token is passed over. -/
inductive FileTurn (cursor : Cursor) : Cursor → Prop
  | block {start : BlockStart} {inner : Cursor} {tokens inside rest : List Token}
      (hgoesOn : cursor.atEnd? = some false)
      (hstart : cursor.runRule? blockStart = some (some start, inner))
      (htokens : inner.remaining? = some tokens) (hbody : body tokens = some (inside, rest)) :
      FileTurn cursor (inner.afterTaking tokens rest)
  | link {linked : List String} {after : Cursor} (hgoesOn : cursor.atEnd? = some false)
      (hstart : cursor.runRule? blockStart = some (none, cursor))
      (hlink : cursor.runRule? linkAttribute = some (some linked, after)) : FileTurn cursor after
  | token {token : Token} {after : Cursor} (hgoesOn : cursor.atEnd? = some false)
      (hstart : cursor.runRule? blockStart = some (none, cursor))
      (hlink : cursor.runRule? linkAttribute = some (none, cursor))
      (hadvance : cursor.advance? = some (token, after)) : FileTurn cursor after

/-- One turn of the scan of a body: a function is taken, or a token is passed over. -/
inductive BodyTurn (cursor : Cursor) : Cursor → Prop
  | function {decl : FunctionDecl} {after : Cursor} (hgoesOn : cursor.atEnd? = some false)
      (hrule : cursor.runRule? function = some (some decl, after)) : BodyTurn cursor after
  | token {token : Token} {after : Cursor} (hgoesOn : cursor.atEnd? = some false)
      (hrule : cursor.runRule? function = some (none, cursor))
      (hadvance : cursor.advance? = some (token, after)) : BodyTurn cursor after

/-- A scan moves on at every turn and stays inside its tokens.  Wherever it comes, and however many
tokens are taken one after the other from there, there is a token under the cursor and there is one
at every distance. -/
structure Advances (turn : Cursor → Cursor → Prop) (start : Cursor) : Prop where
  moves : ∀ cursor after, ReflTransGen turn start cursor → turn cursor after →
    cursor.position < after.position ∧ after.position ≤ after.last
  finds : ∀ cursor, ReflTransGen turn start cursor → ∀ steps distance : Nat,
    (Cursor.next^[steps] cursor).current?.isSome ∧
      ((Cursor.next^[steps] cursor).peek? distance).isSome

/-- The token is a number written as `0x` and hexadecimal digits. -/
def Token.IsHexadecimal (token : Token) : Prop :=
  token.kind = .number ∧ ∃ digits, token.text.toList = '0' :: 'x' :: digits ∧ digits ≠ [] ∧
    ∀ c ∈ digits, Integer.IsHexDigit c

/-- At the cursor there is a class header, perhaps behind an attribute block, and behind its brace no
closing brace stands in column one. -/
def LeavesOpen (cursor : Cursor) (name : QualifiedName) (place : Position) : Prop :=
  ∃ (link : List Token) (word : Token) (header : List Token) (brace : Token) (rest : List Token),
    cursor.remaining? = some (link ++ word :: (header ++ brace :: rest)) ∧
    (link = [] ∨ ∃ linked, linkAttribute.parse (link ++ word :: (header ++ brace :: rest)) =
      some (linked, word :: (header ++ brace :: rest))) ∧
    word.kind = .classWord ∧ word.position = place ∧ brace.kind = .openBrace ∧
    classHeader.parse (word :: (header ++ brace :: rest)) = some (name, rest) ∧
    ∀ token ∈ rest, ¬token.EndsBody

/-! ### Rules take tokens off the front -/

/-- What the rule leaves is a part of the tokens up to their end. -/
def Rule.TakesFront {α : Type} (rule : Rule α) : Prop :=
  ∀ {tokens value rest}, rule.parse tokens = some (value, rest) → ∃ taken, tokens = taken ++ rest

namespace Grammar

lemma exists_linkedIn {inLink : Bool} {platforms linked : List String} {tokens rest : List Token}
    (h : linkedIn inLink platforms tokens = some (linked, rest)) :
    ∃ taken, tokens = taken ++ rest := by
  fun_induction linkedIn inLink platforms tokens with
  | case1 | case5 => cases h
  | case2 platforms token tokens hclose ih | case3 platforms token tokens hclose hname ih
  | case4 platforms token tokens hclose hname ih =>
    obtain ⟨taken, rfl⟩ := ih h
    exact ⟨token :: taken, rfl⟩
  | case6 inLink platforms token hout next rest' hclose =>
    cases h
    exact ⟨[token, next], rfl⟩
  | case7 inLink platforms token hout next rest' hclose hlink ih =>
    obtain ⟨taken, rfl⟩ := ih h
    exact ⟨token :: next :: taken, rfl⟩
  | case8 inLink platforms token hout next rest' hclose hlink ih =>
    obtain ⟨taken, htaken⟩ := ih h
    exact ⟨token :: taken, congrArg (token :: ·) htaken⟩

lemma takesFront_linkAttribute : linkAttribute.TakesFront := by
  intro tokens linked rest h
  simp only [linkAttribute, Option.bind_eq_bind, Option.bind_eq_some_iff] at h
  obtain ⟨_, hfirst, _, hsecond, hlinked⟩ := h
  obtain ⟨first, rfl, -⟩ := expect_eq_some_iff.1 hfirst
  obtain ⟨second, rfl, -⟩ := expect_eq_some_iff.1 hsecond
  obtain ⟨taken, rfl⟩ := exists_linkedIn hlinked
  exact ⟨first :: second :: taken, rfl⟩

/-- Bases are passed over up to a brace. -/
lemma exists_skipBases (tokens : List Token) : ∃ taken, tokens = taken ++ skipBases tokens := by
  unfold skipBases
  split
  · next rest hcolon =>
    obtain ⟨colon, rfl, -⟩ := expect_eq_some_iff.1 hcolon
    exact ⟨colon :: rest.takeWhile (·.kind != .openBrace), by
      rw [List.cons_append, List.takeWhile_append_dropWhile]⟩
  · exact ⟨[], rfl⟩

/-- A class header goes from its word to a brace. -/
lemma exists_classHeader {tokens rest : List Token} {name : QualifiedName}
    (h : classHeader.parse tokens = some (name, rest)) :
    ∃ word header brace, tokens = word :: (header ++ brace :: rest) ∧ word.kind = .classWord ∧
      brace.kind = .openBrace := by
  simp only [classHeader, Option.bind_eq_bind, Option.bind_eq_some_iff, Option.pure_def,
    Option.some.injEq, Prod.exists, Prod.mk.injEq] at h
  obtain ⟨_, hword, _, behind, hname, _, hbrace, rfl, rfl⟩ := h
  obtain ⟨word, rfl, hwordKind⟩ := expect_eq_some_iff.1 hword
  obtain ⟨named, rfl, -, -⟩ := qualifiedName_eq_some_iff.1 hname
  obtain ⟨brace, hbehind, hbraceKind⟩ := expect_eq_some_iff.1 hbrace
  obtain ⟨bases, hbases⟩ := exists_skipBases behind
  refine ⟨word, named ++ bases, brace, ?_, hwordKind, hbraceKind⟩
  rw [hbehind] at hbases
  rw [List.append_assoc, ← hbases]

/-- The start of a class block is perhaps an attribute block, and a class header. -/
lemma exists_blockStart_of_some {tokens rest : List Token} {start : BlockStart}
    (h : blockStart.parse tokens = some (start, rest)) :
    ∃ link word header brace, tokens = link ++ word :: (header ++ brace :: rest) ∧
      (link = [] ∨ ∃ linked, linkAttribute.parse (link ++ word :: (header ++ brace :: rest)) =
        some (linked, word :: (header ++ brace :: rest))) ∧
      word.kind = .classWord ∧ word.position = start.position ∧ brace.kind = .openBrace ∧
      classHeader.parse (word :: (header ++ brace :: rest)) = some (start.name, rest) := by
  have hbehind : ∀ linked others, BlockStart.behind linked others = some (start, rest) →
      ∃ word header brace, others = word :: (header ++ brace :: rest) ∧ word.kind = .classWord ∧
        word.position = start.position ∧ brace.kind = .openBrace ∧
        classHeader.parse others = some (start.name, rest) := by
    intro linked others hstart
    simp only [BlockStart.behind, Option.bind_eq_bind, Option.bind_eq_some_iff, Option.pure_def,
      Option.some.injEq, Prod.exists, Prod.mk.injEq] at hstart
    obtain ⟨first, hfirst, name, last, hheader, rfl, rfl⟩ := hstart
    obtain ⟨word, header, brace, rfl, hword, hbrace⟩ := exists_classHeader hheader
    have hplace : word.position = first.position := congrArg Token.position (Option.some.inj hfirst)
    exact ⟨word, header, brace, rfl, hword, hplace, hbrace, hheader⟩
  rw [blockStart] at h
  cases hlink : linkAttribute.parse tokens with
  | none =>
    simp only [hlink] at h
    obtain ⟨word, header, brace, rfl, hword, hplace, hbrace, hheader⟩ := hbehind _ _ h
    exact ⟨[], word, header, brace, rfl, .inl rfl, hword, hplace, hbrace, hheader⟩
  | some found =>
    obtain ⟨linked, others⟩ := found
    simp only [hlink] at h
    obtain ⟨word, header, brace, rfl, hword, hplace, hbrace, hheader⟩ := hbehind _ _ h
    obtain ⟨link, rfl⟩ := takesFront_linkAttribute hlink
    exact ⟨link, word, header, brace, rfl, .inr ⟨linked, hlink⟩, hword, hplace, hbrace, hheader⟩

lemma takesFront_blockStart : blockStart.TakesFront := by
  intro tokens start rest h
  obtain ⟨link, word, header, brace, htokens, -⟩ := exists_blockStart_of_some h
  exact ⟨link ++ word :: (header ++ [brace]), by simp [htokens]⟩

/-- A class header behind an attribute block or none is the start of a class block. -/
lemma blockStart_eq_some {link header rest : List Token} {word : Token} {name : QualifiedName}
    (hlink : link = [] ∨ ∃ linked, linkAttribute.parse (link ++ word :: header) =
      some (linked, word :: header))
    (hheader : classHeader.parse (word :: header) = some (name, rest)) :
    ∃ start, blockStart.parse (link ++ word :: header) = some (start, rest) ∧
      start.name = name ∧ start.position = word.position := by
  have hbehind : ∀ linked, ∃ start, BlockStart.behind linked (word :: header) =
      some (start, rest) ∧ start.name = name ∧ start.position = word.position := by
    intro linked
    exact ⟨{ linked, name, position := word.position }, by simp [BlockStart.behind, hheader],
      rfl, rfl⟩
  rcases hlink with rfl | ⟨linked, hlinked⟩
  · have hkind := kind_of_classHeader (hheader ▸ Option.some_ne_none _)
    have hnone : linkAttribute.parse (word :: header) = none := by
      simp [linkAttribute, expect, hkind]
    simp only [blockStart, List.nil_append, hnone]
    exact hbehind []
  · simp only [blockStart, hlinked]
    exact hbehind linked

lemma takesFront_function : function.TakesFront := by
  intro tokens decl rest h
  rw [function_parse] at h
  obtain ⟨⟨signature, behind⟩, hsignature, heq⟩ := Option.map_eq_some_iff.1 h
  cases heq
  obtain ⟨taken, rfl, -⟩ := readSignature_eq_some_iff.1 hsignature
  obtain ⟨run, -, hrun, -, -⟩ := exists_isAddressPart behind
  obtain ⟨inline, hinline, -⟩ := exists_isBody (addresses behind).2
  refine ⟨taken ++ (run ++ inline), ?_⟩
  dsimp only
  rw [List.append_assoc, List.append_assoc, ← hinline, ← hrun]

/-- A body ends where the first closing brace stands in column one. -/
lemma body_eq_some_iff {tokens inside rest : List Token} :
    body tokens = some (inside, rest) ↔ ∃ brace, tokens = inside ++ brace :: rest ∧
      (∀ token ∈ inside, ¬token.EndsBody) ∧ brace.EndsBody := by
  constructor
  · intro h
    fun_induction body tokens generalizing inside with
    | case1 => cases h
    | case2 brace tokens hends =>
      cases h
      exact ⟨brace, rfl, by simp, hends⟩
    | case3 token tokens hends ih =>
      obtain ⟨⟨inside, last⟩, hbody, heq⟩ := Option.map_eq_some_iff.1 h
      cases heq
      obtain ⟨brace, rfl, hinside, hbrace⟩ := ih hbody
      exact ⟨brace, rfl, List.forall_mem_cons.2 ⟨hends, hinside⟩, hbrace⟩
  · rintro ⟨brace, rfl, hinside, hbrace⟩
    exact body_append hinside hbrace.1 hbrace.2 rest

lemma body_eq_none_iff {tokens : List Token} :
    body tokens = none ↔ ∀ token ∈ tokens, ¬token.EndsBody := by
  induction tokens with
  | nil => simp [body]
  | cons token tokens ih =>
    rw [List.forall_mem_cons, body]
    split
    · next hends => simp [Token.EndsBody, hends]
    · next hends => rw [Option.map_eq_none_iff, ih, Token.EndsBody, and_iff_right hends]

end Grammar

/-! ### Cursors of a scan -/

namespace Cursor

/-- There is a token under the cursor. -/
def IsInside (cursor : Cursor) : Prop :=
  0 ≤ cursor.position ∧ cursor.position ≤ cursor.last

variable {α : Type} {rule : Rule α} {before left : List Token} {place : Position}
  {cursor : Cursor}

lemma isSome_tokenAt? {index : Int} (hnonneg : 0 ≤ index) (hlast : index ≤ cursor.last) :
    (cursor.tokenAt? index).isSome := by
  have hlt : index < cursor.tokens.length := by
    unfold last at hlast
    omega
  rw [tokenAt?, indexOf?_of_lt hnonneg hlt, Option.bind_some, isSome_getElem?]
  omega

lemma IsInside.isSome_current? (h : cursor.IsInside) : cursor.current?.isSome :=
  isSome_tokenAt? h.1 h.2

lemma IsInside.isSome_peek? (h : cursor.IsInside) (distance : Nat) :
    (cursor.peek? distance).isSome := by
  have hnonneg := h.1
  have hlast := h.2
  exact isSome_tokenAt? (by omega) (by omega)

lemma IsInside.iterate_next (h : cursor.IsInside) (steps : Nat) :
    (next^[steps] cursor).IsInside := by
  refine Function.Iterate.rec IsInside h (fun cursor h => ?_) steps
  obtain ⟨hnonneg, hlast⟩ := h
  unfold next
  split
  · next hlt => exact ⟨by simp only [reset]; omega, by simp only [reset, last] at hlt ⊢; omega⟩
  · exact ⟨hnonneg, hlast⟩

lemma isInside_between : (between before left place).IsInside := by
  constructor
  · exact Int.natCast_nonneg _
  · simp only [last, between, List.length_append, List.length_singleton]
    omega

lemma atEnd?_between_nil : (between before [] place).atEnd? = some true := by
  rw [atEnd?, show (between before [] place).current? = _ from current?_facing]
  rfl

lemma atEnd?_between_cons {token : Token} {rest : List Token} (h : token.kind ≠ .eof) :
    (between before (token :: rest) place).atEnd? = some false := by
  rw [atEnd?, show (between before (token :: rest) place).current? = _ from current?_facing]
  simp [h]

lemma advance?_between {token : Token} {rest : List Token} :
    (between before (token :: rest) place).advance? =
      some (token, between (before ++ [token]) rest place) :=
  advance?_facing

/-- What a rule takes at a cursor is in front of what it leaves. -/
lemma runRule?_between_eq_some_iff (hrule : rule.TakesFront) {value : α} {after : Cursor} :
    (between before left place).runRule? rule = some (some value, after) ↔
      ∃ taken rest, left = taken ++ rest ∧ rule.parse left = some (value, rest) ∧
        after = between (before ++ taken) rest place := by
  constructor
  · intro h
    cases hparse : rule.parse left with
    | none =>
      rw [runRule?_between_eq_none hparse] at h
      cases h
    | some found =>
      obtain ⟨found, rest⟩ := found
      obtain ⟨taken, rfl⟩ := hrule hparse
      rw [runRule?_between_eq_some hparse] at h
      cases h
      exact ⟨taken, rest, rfl, rfl, rfl⟩
  · rintro ⟨taken, rest, rfl, hparse, rfl⟩
    exact runRule?_between_eq_some hparse

lemma runRule?_between_eq_none_iff {after : Cursor} :
    (between before left place).runRule? rule = some (none, after) ↔
      rule.parse left = none ∧ after = between before left place := by
  rw [runRule?, remaining?_between, Option.map_some]
  cases rule.parse left <;> simp [eq_comm]

end Cursor

open Cursor (between)

/-! ### The scan of a body -/

section Turns

variable {before left : List Token} {place : Position} {after : Cursor}

/-- A turn takes at least one token off the front of those that are left. -/
def IsOnward (turn : Cursor → Cursor → Prop) : Prop :=
  ∀ {before left place after}, turn (between before left place) after →
    ∃ taken rest, taken ≠ [] ∧ left = taken ++ rest ∧ after = between (before ++ taken) rest place

/-- A scan leaves its tokens as they are, and goes on in front of the last of them. -/
lemma exists_between_of_reaches {turn : Cursor → Cursor → Prop} (hturn : IsOnward turn)
    {cursor : Cursor} (h : ReflTransGen turn (between before left place) cursor) :
    ∃ taken rest, left = taken ++ rest ∧ cursor = between (before ++ taken) rest place := by
  induction h with
  | refl => exact ⟨[], left, rfl, by rw [List.append_nil]⟩
  | tail _ hlast ih =>
    obtain ⟨taken, rest, rfl, rfl⟩ := ih
    obtain ⟨more, last, -, rfl, rfl⟩ := hturn hlast
    exact ⟨taken ++ more, last, by rw [List.append_assoc], by rw [List.append_assoc]⟩

lemma advances_of_isOnward {turn : Cursor → Cursor → Prop} (hturn : IsOnward turn)
    (tokens : List Token) (place : Position) :
    Advances turn (.atStart (tokens ++ [Token.endAt place])) := by
  have hstart : Cursor.atStart (tokens ++ [Token.endAt place]) = between [] tokens place := rfl
  rw [hstart]
  constructor
  · intro cursor after hreaches hafter
    obtain ⟨taken, rest, rfl, rfl⟩ := exists_between_of_reaches hturn hreaches
    obtain ⟨more, last, hmore, rfl, rfl⟩ := hturn hafter
    have hpos := List.length_pos_iff.2 hmore
    refine ⟨?_, Cursor.isInside_between.2⟩
    simp only [between, List.length_append]
    omega
  · intro cursor hreaches steps distance
    obtain ⟨taken, rest, -, rfl⟩ := exists_between_of_reaches hturn hreaches
    have hinside : (between ([] ++ taken) rest place).IsInside := Cursor.isInside_between
    exact ⟨(hinside.iterate_next steps).isSome_current?,
      (hinside.iterate_next steps).isSome_peek? distance⟩

lemma ne_nil_of_parse {α : Type} {rule : Rule α} {taken rest : List Token} {value : α}
    (h : rule.parse (taken ++ rest) = some (value, rest)) : taken ≠ [] := by
  rintro rfl
  exact absurd (rule.shorter h) (by simp)

lemma ne_nil_of_goesOn (h : (between before left place).atEnd? = some false) : left ≠ [] := by
  rintro rfl
  rw [Cursor.atEnd?_between_nil] at h
  cases h

/-- Passing over a token takes it. -/
lemma exists_of_advance? {token : Token} (hgoesOn : (between before left place).atEnd? = some false)
    (hadvance : (between before left place).advance? = some (token, after)) :
    ∃ rest, left = token :: rest ∧ after = between (before ++ [token]) rest place := by
  obtain ⟨first, rest, rfl⟩ := List.exists_cons_of_ne_nil (ne_nil_of_goesOn hgoesOn)
  rw [Cursor.advance?_between] at hadvance
  cases hadvance
  exact ⟨rest, rfl, rfl⟩

lemma isOnward_bodyTurn : IsOnward BodyTurn := by
  rintro before left place after (⟨hgoesOn, hrule⟩ | ⟨hgoesOn, -, hadvance⟩)
  · obtain ⟨taken, rest, rfl, hparse, rfl⟩ :=
      (Cursor.runRule?_between_eq_some_iff Grammar.takesFront_function).1 hrule
    exact ⟨taken, rest, ne_nil_of_parse hparse, rfl, rfl⟩
  · obtain ⟨rest, rfl, rfl⟩ := exists_of_advance? hgoesOn hadvance
    exact ⟨[_], rest, by simp, rfl, rfl⟩

/-- Where tokens are left, the scan of a body takes a turn. -/
lemma exists_bodyTurn {token : Token} {rest : List Token} (h : token.kind ≠ .eof) :
    ∃ after, BodyTurn (between before (token :: rest) place) after := by
  have hgoesOn : (between before (token :: rest) place).atEnd? = some false :=
    Cursor.atEnd?_between_cons h
  cases hparse : function.parse (token :: rest) with
  | none =>
    exact ⟨_, .token hgoesOn (Cursor.runRule?_between_eq_none hparse) Cursor.advance?_between⟩
  | some found =>
    obtain ⟨decl, last⟩ := found
    obtain ⟨taken, htaken⟩ := Grammar.takesFront_function hparse
    exact ⟨_, .function hgoesOn ((Cursor.runRule?_between_eq_some_iff
      Grammar.takesFront_function).2 ⟨taken, last, htaken, hparse, rfl⟩)⟩

/-- A scan whose turns take tokens, and that takes one wherever tokens are left or stops, comes to the
end of its tokens or stops. -/
lemma exists_reaches {turn : Cursor → Cursor → Prop} {stops : Cursor → Prop} (hturn : IsOnward turn)
    (hgoesOn : ∀ before token rest, token.kind ≠ .eof →
      (∃ after, turn (between before (token :: rest) place) after) ∨
        stops (between before (token :: rest) place))
    (hleft : ∀ token ∈ left, token.kind ≠ .eof) :
    ∃ cursor, ReflTransGen turn (between before left place) cursor ∧
      (cursor.atEnd? = some true ∨ stops cursor) := by
  induction hlength : left.length using Nat.strong_induction_on generalizing before left with
  | _ length ih =>
    cases left with
    | nil => exact ⟨_, .refl, .inl Cursor.atEnd?_between_nil⟩
    | cons token rest =>
      rcases hgoesOn before token rest (hleft token List.mem_cons_self) with ⟨after, hafter⟩ | hstop
      · obtain ⟨taken, last, htaken, heq, rfl⟩ := hturn hafter
        have hpos := List.length_pos_iff.2 htaken
        have hlast : ∀ token ∈ last, token.kind ≠ .eof := fun token hmem =>
          hleft token (heq ▸ List.mem_append_right taken hmem)
        have hsum := congrArg List.length heq
        rw [List.length_append] at hsum
        obtain ⟨cursor, hreaches, hcursor⟩ := ih last.length (by omega) hlast rfl
        exact ⟨cursor, .head hafter hreaches, hcursor⟩
      · exact ⟨_, .refl, .inr hstop⟩

/-! ### The scan of a file -/

/-- A turn takes tokens, and what is found behind them does not depend on it. -/
lemma exists_of_fileTurn (h : FileTurn (between before left place) after) :
    ∃ taken rest, taken ≠ [] ∧ left = taken ++ rest ∧ after = between (before ++ taken) rest place ∧
      ∀ found, ∃ others, classesIn found left = classesIn others rest := by
  cases h with
  | @block start inner tokens inside last hgoesOn hstart htokens hbody =>
    obtain ⟨taken, rest, rfl, hparse, rfl⟩ :=
      (Cursor.runRule?_between_eq_some_iff Grammar.takesFront_blockStart).1 hstart
    rw [Cursor.remaining?_between, Option.some.injEq] at htokens
    subst htokens
    obtain ⟨brace, rfl, -, -⟩ := Grammar.body_eq_some_iff.1 hbody
    refine ⟨taken ++ (inside ++ [brace]), last, by simp, by simp, ?_, fun found => ?_⟩
    · rw [List.append_cons inside brace last, Cursor.afterTaking_between, List.append_assoc]
    · exact ⟨_, classesIn_of_block hparse hbody⟩
  | link hgoesOn hstart hlink =>
    obtain ⟨taken, rest, rfl, hparse, rfl⟩ :=
      (Cursor.runRule?_between_eq_some_iff Grammar.takesFront_linkAttribute).1 hlink
    have hne := ne_nil_of_parse hparse
    obtain ⟨first, more, rfl⟩ := List.exists_cons_of_ne_nil hne
    have hnone := (Cursor.runRule?_between_eq_none_iff.1 hstart).1
    refine ⟨_, rest, hne, rfl, rfl, fun found => ⟨found, ?_⟩⟩
    rw [List.cons_append] at hparse hnone ⊢
    rw [classesIn_cons, hnone, hparse]
  | token hgoesOn hstart hlink hadvance =>
    obtain ⟨rest, rfl, rfl⟩ := exists_of_advance? hgoesOn hadvance
    have hnone := (Cursor.runRule?_between_eq_none_iff.1 hstart).1
    have hnolink := (Cursor.runRule?_between_eq_none_iff.1 hlink).1
    refine ⟨[_], rest, by simp, rfl, rfl, fun found => ⟨found, ?_⟩⟩
    rw [classesIn_cons, hnone, hnolink]

lemma isOnward_fileTurn : IsOnward FileTurn := by
  intro before left place after h
  obtain ⟨taken, rest, hne, hleft, hafter, -⟩ := exists_of_fileTurn h
  exact ⟨taken, rest, hne, hleft, hafter⟩

/-- Wherever the scan comes, what it will end with is what it would end with from there. -/
lemma exists_classesIn_of_reaches
    (h : ReflTransGen FileTurn (between before left place) after) (found : List ClassDecl) :
    ∃ front rest others, after = between front rest place ∧ (∃ taken, left = taken ++ rest) ∧
      classesIn found left = classesIn others rest := by
  induction h with
  | refl => exact ⟨before, left, found, rfl, ⟨[], rfl⟩, rfl⟩
  | tail _ hlast ih =>
    obtain ⟨front, rest, others, rfl, ⟨taken, rfl⟩, hclasses⟩ := ih
    obtain ⟨more, last, -, rfl, rfl, hmore⟩ := exists_of_fileTurn hlast
    obtain ⟨next, hnext⟩ := hmore others
    exact ⟨_, last, next, rfl, ⟨taken ++ more, by rw [List.append_assoc]⟩, hclasses.trans hnext⟩

lemma leavesOpen_between_iff {name : QualifiedName} {position : Position} :
    LeavesOpen (between before left place) name position ↔
      ∃ start rest, blockStart.parse left = some (start, rest) ∧ body rest = none ∧
        start.name = name ∧ start.position = position := by
  constructor
  · rintro ⟨link, word, header, brace, rest, hleft, hlink, -, rfl, -, hheader, hopen⟩
    rw [Cursor.remaining?_between, Option.some.injEq] at hleft
    subst hleft
    obtain ⟨start, hstart, hname, hposition⟩ := Grammar.blockStart_eq_some hlink hheader
    exact ⟨start, rest, hstart, Grammar.body_eq_none_iff.2 hopen, hname, hposition⟩
  · rintro ⟨start, rest, hstart, hbody, rfl, rfl⟩
    obtain ⟨link, word, header, brace, rfl, hlink, hword, hposition, hbrace, hheader⟩ :=
      Grammar.exists_blockStart_of_some hstart
    exact ⟨link, word, header, brace, rest, Cursor.remaining?_between, hlink, hword, hposition,
      hbrace, hheader, Grammar.body_eq_none_iff.1 hbody⟩

/-- A class block that is never closed is an error. -/
lemma classesIn_of_leavesOpen {name : QualifiedName} {position : Position}
    (h : LeavesOpen (between before left place) name position) (found : List ClassDecl) :
    classesIn found left = .error (.openBody name position) := by
  obtain ⟨start, rest, hstart, hbody, rfl, rfl⟩ := leavesOpen_between_iff.1 h
  cases left with
  | nil => exact absurd (blockStart.shorter hstart) (by simp)
  | cons token left => rw [classesIn_cons, hstart]; simp only [hbody]

/-- Where tokens are left, the scan of a file takes a turn, or a class block is never closed. -/
lemma exists_fileTurn_or_leavesOpen {token : Token} {rest : List Token} (h : token.kind ≠ .eof) :
    (∃ after, FileTurn (between before (token :: rest) place) after) ∨
      ∃ name position, LeavesOpen (between before (token :: rest) place) name position := by
  have hgoesOn : (between before (token :: rest) place).atEnd? = some false :=
    Cursor.atEnd?_between_cons h
  cases hstart : blockStart.parse (token :: rest) with
  | some found =>
    obtain ⟨start, behind⟩ := found
    cases hbody : body behind with
    | none => exact .inr ⟨_, _, leavesOpen_between_iff.2 ⟨start, behind, hstart, hbody, rfl, rfl⟩⟩
    | some found =>
      obtain ⟨taken, htaken⟩ := Grammar.takesFront_blockStart hstart
      exact .inl ⟨_, .block hgoesOn ((Cursor.runRule?_between_eq_some_iff
        Grammar.takesFront_blockStart).2 ⟨taken, behind, htaken, hstart, rfl⟩)
        Cursor.remaining?_between hbody⟩
  | none =>
    have hnone : (between before (token :: rest) place).runRule? blockStart =
        some (none, between before (token :: rest) place) := Cursor.runRule?_between_eq_none hstart
    cases hlink : linkAttribute.parse (token :: rest) with
    | none =>
      exact .inl ⟨_, .token hgoesOn hnone (Cursor.runRule?_between_eq_none hlink)
        Cursor.advance?_between⟩
    | some found =>
      obtain ⟨linked, behind⟩ := found
      obtain ⟨taken, htaken⟩ := Grammar.takesFront_linkAttribute hlink
      exact .inl ⟨_, .link hgoesOn hnone ((Cursor.runRule?_between_eq_some_iff
        Grammar.takesFront_linkAttribute).2 ⟨taken, behind, htaken, hlink, rfl⟩)⟩

end Turns

/-! ### The course of a file -/

/-- How the scan of the tokens of a file goes, and what comes of it. -/
structure Course (tokens : List Token) (result : Except ParseError (List ClassDecl)) : Prop where
  /-- The scan of the file moves on and finds its tokens. -/
  advances : Advances FileTurn (.atStart tokens)
  /-- So does the scan of each body that is found, and it comes to its end. -/
  bodies : ∀ (cursor inner : Cursor) (start : BlockStart) (inside : List Token) (brace : Token)
    (rest : List Token), ReflTransGen FileTurn (.atStart tokens) cursor →
      cursor.runRule? blockStart = some (some start, inner) →
      inner.remaining? = some (inside ++ brace :: rest) →
      (∀ token ∈ inside, ¬token.EndsBody) → brace.EndsBody →
      Advances BodyTurn (.atStart (inside ++ [.endAt brace.position])) ∧
        ∃ last, ReflTransGen BodyTurn (.atStart (inside ++ [.endAt brace.position])) last ∧
          last.atEnd? = some true
  /-- Every number that is written as an offset has a value, and nothing else has one. -/
  offsets : ∀ token ∈ tokens,
    (token.IsHexadecimal → ∃ offset, Integer.inBase? 16 token.text.toList = some offset ∧
      Grammar.offset? token = some offset) ∧
    (¬token.IsHexadecimal → Grammar.offset? token = none)
  /-- There are classes exactly if the scan comes to the end. -/
  returns_iff : (∃ classes, result = .ok classes) ↔
    ∃ cursor, ReflTransGen FileTurn (.atStart tokens) cursor ∧ cursor.atEnd? = some true
  /-- There is an error exactly if the scan comes to a class block that is never closed. -/
  fails_iff : ∀ error, result = .error error ↔
    ∃ cursor name place, ReflTransGen FileTurn (.atStart tokens) cursor ∧
      LeavesOpen cursor name place ∧ error = .openBody name place
  /-- A closing brace in column one at the very end closes whatever is open. -/
  returns_of_closed : ∀ last, tokens.dropLast.getLast? = some last → last.EndsBody →
    ∃ classes, result = .ok classes

/-- A token of the form of an offset is one, and it has a value; no other token is one. -/
lemma offset?_token (token : Token) :
    (token.IsHexadecimal → ∃ offset, Integer.inBase? 16 token.text.toList = some offset ∧
      Grammar.offset? token = some offset) ∧
    (¬token.IsHexadecimal → Grammar.offset? token = none) := by
  constructor
  · rintro ⟨hkind, digits, htext, hne, hdigits⟩
    obtain ⟨n, hn, hread⟩ := Integer.inBase?_hexadecimal hne hdigits
    refine ⟨n, htext ▸ hread, ?_⟩
    rw [Grammar.offset?, if_pos hkind]
    simp [htext, hn]
  · intro hnot
    by_contra hsome
    obtain ⟨offset, hoffset⟩ := Option.ne_none_iff_exists'.1 hsome
    obtain ⟨hkind, digits, n, htext, hn, -⟩ := Grammar.offset?_eq_some_iff.1 hoffset
    obtain ⟨hne, hdigits⟩ := Integer.isHexDigit_of_hexNumber? hn
    exact hnot ⟨hkind, digits, htext, hne, hdigits⟩

/-- The scan of a file that ends as its tokens do, in one of two ways. -/
lemma exists_end_of_file {front : List Token} (place : Position)
    (hfront : ∀ token ∈ front, token.kind ≠ .eof) :
    ∃ cursor, ReflTransGen FileTurn (between [] front place) cursor ∧
      (cursor.atEnd? = some true ∨ ∃ name position, LeavesOpen cursor name position) :=
  exists_reaches isOnward_fileTurn (fun _ _ _ => exists_fileTurn_or_leavesOpen) hfront

/-- A scan that comes to the end of the tokens gives classes. -/
lemma exists_ok_of_reaches {front : List Token} {place : Position} {cursor : Cursor}
    (hfront : ∀ token ∈ front, token.kind ≠ .eof)
    (h : ReflTransGen FileTurn (between [] front place) cursor) (hend : cursor.atEnd? = some true) :
    ∃ classes, classesIn [] front = .ok classes := by
  obtain ⟨_, rest, others, rfl, ⟨taken, rfl⟩, hclasses⟩ := exists_classesIn_of_reaches h []
  cases rest with
  | nil => exact ⟨others.reverse, by rw [hclasses, classesIn]⟩
  | cons token rest =>
    rw [Cursor.atEnd?_between_cons (hfront token (by simp))] at hend
    cases hend

/-- A scan that comes to a class block that is never closed gives an error about it. -/
lemma classesIn_of_reaches_leavesOpen {front : List Token} {place : Position} {cursor : Cursor}
    {name : QualifiedName} {position : Position}
    (h : ReflTransGen FileTurn (between [] front place) cursor)
    (hopen : LeavesOpen cursor name position) :
    classesIn [] front = .error (.openBody name position) := by
  obtain ⟨_, rest, others, rfl, -, hclasses⟩ := exists_classesIn_of_reaches h []
  rw [hclasses, classesIn_of_leavesOpen hopen]

/-- Nothing is left open in front of a closing brace in column one. -/
lemma not_leavesOpen_of_closed {front : List Token} {place : Position} {cursor : Cursor}
    {last : Token} (hlast : front.getLast? = some last) (hends : last.EndsBody)
    (h : ReflTransGen FileTurn (between [] front place) cursor) (name : QualifiedName)
    (position : Position) : ¬LeavesOpen cursor name position := by
  rintro ⟨link, word, header, brace, rest, hleft, -, -, -, hbrace, -, hopen⟩
  obtain ⟨taken, left, rfl, rfl⟩ := exists_between_of_reaches isOnward_fileTurn h
  rw [Cursor.remaining?_between, Option.some.injEq] at hleft
  have hfront : taken ++ left = (taken ++ (link ++ word :: header)) ++ brace :: rest := by
    rw [hleft]
    simp
  rw [hfront, List.getLast?_append_of_ne_nil _ (List.cons_ne_nil brace rest)] at hlast
  rcases List.mem_cons.1 (List.mem_of_getLast? hlast) with rfl | hmem
  · exact absurd (hbrace.symm.trans hends.1) (by decide)
  · exact hopen last hmem hends

/-- The scan of a body comes to its end. -/
lemma exists_end_of_body {inside : List Token} {place : Position}
    (hinside : ∀ token ∈ inside, token.kind ≠ .eof) :
    ∃ cursor, ReflTransGen BodyTurn (between [] inside place) cursor ∧
      cursor.atEnd? = some true := by
  have hscan : ∃ cursor, ReflTransGen BodyTurn (between [] inside place) cursor ∧
      (cursor.atEnd? = some true ∨ False) :=
    exists_reaches isOnward_bodyTurn (fun _ _ _ h => .inl (exists_bodyTurn h)) hinside
  simpa using hscan

/-- The course of tokens that end with the only token for the end of the text. -/
lemma course_of_front {front : List Token} (hfront : ∀ token ∈ front, token.kind ≠ .eof)
    (place : Position) :
    Course (front ++ [Token.endAt place]) (classesIn [] front) where
  advances := advances_of_isOnward isOnward_fileTurn front place
  bodies := by
    intro cursor inner start inside brace rest hreaches hstart hinner hinside hbrace
    have hscan : ReflTransGen FileTurn (between [] front place) cursor := hreaches
    obtain ⟨taken, left, rfl, rfl⟩ := exists_between_of_reaches isOnward_fileTurn hscan
    obtain ⟨header, behind, rfl, -, rfl⟩ :=
      (Cursor.runRule?_between_eq_some_iff Grammar.takesFront_blockStart).1 hstart
    rw [Cursor.remaining?_between, Option.some.injEq] at hinner
    subst hinner
    have hkinds : ∀ token ∈ inside, token.kind ≠ .eof := fun token hmem =>
      hfront token (by simp [hmem])
    exact ⟨advances_of_isOnward isOnward_bodyTurn inside brace.position,
      exists_end_of_body hkinds⟩
  offsets token _ := offset?_token token
  returns_iff := by
    constructor
    · rintro ⟨classes, hclasses⟩
      obtain ⟨cursor, hreaches, hend | ⟨name, position, hopen⟩⟩ := exists_end_of_file place hfront
      · exact ⟨cursor, hreaches, hend⟩
      · rw [classesIn_of_reaches_leavesOpen hreaches hopen] at hclasses
        cases hclasses
    · rintro ⟨cursor, hreaches, hend⟩
      exact exists_ok_of_reaches hfront hreaches hend
  fails_iff := by
    intro error
    constructor
    · intro herror
      obtain ⟨cursor, hreaches, hend | ⟨name, position, hopen⟩⟩ := exists_end_of_file place hfront
      · obtain ⟨classes, hclasses⟩ := exists_ok_of_reaches hfront hreaches hend
        rw [hclasses] at herror
        cases herror
      · rw [classesIn_of_reaches_leavesOpen hreaches hopen] at herror
        cases herror
        exact ⟨cursor, name, position, hreaches, hopen, rfl⟩
    · rintro ⟨cursor, name, position, hreaches, hopen, rfl⟩
      exact classesIn_of_reaches_leavesOpen hreaches hopen
  returns_of_closed := by
    intro last hlast hends
    rw [List.dropLast_concat] at hlast
    obtain ⟨cursor, hreaches, hend | ⟨name, position, hopen⟩⟩ :=
      exists_end_of_file place hfront
    · exact exists_ok_of_reaches hfront hreaches hend
    · exact absurd hopen (not_leavesOpen_of_closed hlast hends hreaches name position)

/-- Every text is read to its end or refused for a reason: a comment or a literal that is never
closed, or a class block that is never closed.  Each turn of the scans moves on, a token that is
looked for is always there, and what has the form of an offset has a value. -/
theorem parse_course (source : String) :
    (∃ error, tokenize source = .error error ∧ parse source = .error (.lexical error)) ∨
      ∃ tokens, tokenize source = .ok tokens ∧ Course tokens (parse source) := by
  cases htokens : tokenize source with
  | error error => exact .inl ⟨error, rfl, by rw [parse, htokens]⟩
  | ok tokens =>
    obtain ⟨segments, gap, hscan, rfl⟩ := exists_scan_of_tokenize htokens
    have hfront : ∀ token ∈ segments.map Segment.token, token.kind ≠ .eof := by
      simpa using kind_ne_eof_of_inRow hscan.inRow
    refine .inr ⟨_, rfl, ?_⟩
    simp only [parse, htokens, List.dropLast_concat]
    exact course_of_front hfront _

end BindingSync.Binding
