import Mathlib.Tactic.Common
import BindingSync.Binding.Walk
import BindingSync.Proofs.Binding.Cursors
import BindingSync.Proofs.Binding.FunctionGrammar

/-!
# Walks and what they read

A walk goes over tokens in front of the cursor, wherever the cursor is (`Walk.Goes`), or it goes
back to a place that it remembers (`Walk.Returns`).  It does what a reading of the tokens says in
one of two ways.  Where the reading matches, the walk takes the tokens that are read.  Where it does
not, the walk comes back to the place it started from (`Walk.Follows`), or it stops anywhere, and it
is for the walk around it to go back (`Walk.Tracks`).
-/

namespace BindingSync.Binding

open BindingSync.Text
open Cursor (facing)

/-- None of the tokens is that for the end of the text. -/
def IsInner (tokens : List Token) : Prop :=
  ∀ token ∈ tokens, token.kind ≠ .eof

instance (tokens : List Token) : Decidable (IsInner tokens) :=
  inferInstanceAs (Decidable (∀ token ∈ tokens, token.kind ≠ .eof))

/-- The kind of the first token, if the end of the text follows the tokens. -/
def headKind (tokens : List Token) : TokenKind :=
  (tokens.head?.map Token.kind).getD .eof

@[simp] lemma headKind_nil : headKind [] = .eof :=
  rfl

@[simp] lemma headKind_cons (token : Token) (rest : List Token) :
    headKind (token :: rest) = token.kind :=
  rfl

lemma IsInner.tail {token : Token} {rest : List Token} (h : IsInner (token :: rest)) :
    IsInner rest :=
  fun other hmem => h other (List.mem_cons_of_mem token hmem)

namespace Walk

variable {α β σ : Type} {before left mid rest origin : List Token} {end_ token : Token}
  {kind : TokenKind}

/-! ### What a walk does -/

/-- The walk takes tokens off the front of those that are left, wherever it is. -/
def Goes (walk : Walk α) (left : List Token) (value : α) (rest : List Token) : Prop :=
  ∃ taken, left = taken ++ rest ∧ ∀ before end_, end_.kind = .eof →
    walk (facing before left end_) = some (value, facing (before ++ taken) rest end_)

/-- Behind some of the tokens that were left at first, the walk goes back in front of them. -/
def Returns (walk : Int → Walk (Option α)) (origin left : List Token) : Prop :=
  ∀ taken, origin = taken ++ left → ∀ before end_, end_.kind = .eof →
    walk before.length (facing (before ++ taken) left end_) = some (none, facing before origin end_)

/-- The walk takes what is read, and stops anywhere where nothing is read. -/
structure Tracks (walk : Walk (Option α)) (parse : List Token → Option (α × List Token))
    (left : List Token) : Prop where
  takes : ∀ {value rest}, parse left = some (value, rest) → Goes walk left (some value) rest
  stops : parse left = none → ∃ rest, Goes walk left none rest

/-- The walk takes what is read, and comes back where nothing is read. -/
structure Follows (walk : Walk (Option α)) (parse : List Token → Option (α × List Token))
    (left : List Token) : Prop where
  takes : ∀ {value rest}, parse left = some (value, rest) → Goes walk left (some value) rest
  backs : parse left = none → Goes walk left none left

lemma bind_apply {walk : Walk α} {next : α → Walk β} {cursor after : Cursor} {value : α}
    (h : walk cursor = some (value, after)) : (walk >>= next) cursor = next value after := by
  simp only [bind, StateT.bind, h, Option.bind_some]

lemma goes_pure (value : α) (left : List Token) : Goes (pure value) left value left :=
  ⟨[], rfl, fun before end_ _ => by rw [List.append_nil]; rfl⟩

lemma Goes.bind {walk : Walk α} {next : α → Walk β} {value : α} {result : β}
    (h : Goes walk left value mid) (hnext : Goes (next value) mid result rest) :
    Goes (walk >>= next) left result rest := by
  obtain ⟨taken, rfl, hwalk⟩ := h
  obtain ⟨more, rfl, hmore⟩ := hnext
  refine ⟨taken ++ more, by rw [List.append_assoc], fun before end_ hend => ?_⟩
  rw [bind_apply (hwalk before end_ hend), hmore _ end_ hend, List.append_assoc]

lemma Goes.yes {test : Walk Bool} {yes no : Walk β} {result : β} (h : Goes test left true mid)
    (hyes : Goes yes mid result rest) : Goes (do if ← test then yes else no) left result rest :=
  h.bind hyes

lemma Goes.no {test : Walk Bool} {yes no : Walk β} {result : β} (h : Goes test left false mid)
    (hno : Goes no mid result rest) : Goes (do if ← test then yes else no) left result rest :=
  h.bind hno

lemma Goes.suffix {walk : Walk α} {value : α} (h : Goes walk left value rest) :
    rest <:+ left := by
  obtain ⟨taken, rfl, -⟩ := h
  exact ⟨taken, rfl⟩

lemma Goes.isInner {walk : Walk α} {value : α} (h : Goes walk left value rest)
    (hleft : IsInner left) : IsInner rest :=
  fun token hmem => hleft token (h.suffix.subset hmem)

/-! ### Going back -/

lemma returns_backTo (origin left : List Token) : Returns (backTo (α := α)) origin left := by
  rintro taken rfl before end_ -
  simp [backTo, Cursor.reset, facing]

lemma Goes.returns {walk : Walk β} {next : Int → β → Walk (Option α)} {value : β}
    (h : Goes walk left value rest) (hnext : Returns (next · value) origin rest) :
    Returns (fun start => walk >>= next start) origin left := by
  obtain ⟨more, rfl, hmore⟩ := h
  rintro taken rfl before end_ hend
  change (walk >>= _) _ = _
  rw [bind_apply (hmore (before ++ taken) end_ hend), List.append_assoc]
  exact hnext (taken ++ more) (by rw [List.append_assoc]) before end_ hend

/-- A walk that goes back to the place it remembers comes back. -/
lemma Returns.goes {next : Int → Walk (Option α)} (h : Returns next left left) :
    Goes (mark >>= next) left none left := by
  refine ⟨[], rfl, fun before end_ hend => ?_⟩
  have hnext := h [] rfl before end_ hend
  rw [List.append_nil] at hnext ⊢
  rw [bind_apply (show mark (facing before left end_) = some (_, _) from rfl)]
  exact hnext

/-- A walk may remember a place that it does not go back to. -/
lemma goes_mark {next : Int → Walk α} {value : α} (h : ∀ start, Goes (next start) left value rest) :
    Goes (mark >>= next) left value rest := by
  obtain ⟨taken, hleft, -⟩ := h 0
  refine ⟨taken, hleft, fun before end_ hend => ?_⟩
  obtain ⟨taken', hleft', hnext⟩ := h before.length
  obtain rfl := List.append_cancel_right (hleft.symm.trans hleft')
  rw [bind_apply (show mark (facing before left end_) = some (_, _) from rfl)]
  exact hnext before end_ hend

/-! ### Readings with and without a match -/

section Readings

variable {walk : Walk (Option α)} {parse : List Token → Option (α × List Token)} {value : α}

lemma Tracks.of_some (hparse : parse left = some (value, rest))
    (h : Goes walk left (some value) rest) : Tracks walk parse left where
  takes hother := by
    cases hparse.symm.trans hother
    exact h
  stops hnone := by
    rw [hparse] at hnone
    cases hnone

lemma Tracks.of_none (hparse : parse left = none) (h : Goes walk left none rest) :
    Tracks walk parse left where
  takes hother := by
    rw [hparse] at hother
    cases hother
  stops _ := ⟨rest, h⟩

lemma Follows.of_some (hparse : parse left = some (value, rest))
    (h : Goes walk left (some value) rest) : Follows walk parse left where
  takes := (Tracks.of_some hparse h).takes
  backs hnone := by
    rw [hparse] at hnone
    cases hnone

lemma Follows.of_none (hparse : parse left = none) (h : Goes walk left none left) :
    Follows walk parse left where
  takes := (Tracks.of_none hparse h).takes
  backs _ := h

end Readings

/-! ### Moves -/

/-- At the end of the text the cursor is at the last token. -/
lemma headD_kind (hend : end_.kind = .eof) : (left.headD end_).kind = headKind left := by
  cases left with
  | nil => exact hend
  | cons token rest => rfl

lemma goes_check (kinds : List TokenKind) (left : List Token) :
    Goes (check kinds) left (kinds.contains (headKind left)) left := by
  refine ⟨[], rfl, fun before end_ hend => ?_⟩
  rw [check, Cursor.check?, Cursor.current?_facing, Option.map_some, headD_kind hend,
    List.append_nil]
  rfl

lemma goes_check_of_eq (left : List Token) (h : headKind left = kind) :
    Goes (check [kind]) left true left := by
  simpa [h] using goes_check [kind] left

lemma goes_check_of_ne (left : List Token) (h : headKind left ≠ kind) :
    Goes (check [kind]) left false left := by
  simpa [h] using goes_check [kind] left

lemma goes_atEnd (left : List Token) : Goes atEnd left (decide (headKind left = .eof)) left := by
  refine ⟨[], rfl, fun before end_ hend => ?_⟩
  rw [atEnd, Cursor.atEnd?, Cursor.current?_facing, Option.map_some, headD_kind hend,
    List.append_nil]
  rfl

lemma goes_atEnd_cons (h : token.kind ≠ .eof) (rest : List Token) :
    Goes atEnd (token :: rest) false (token :: rest) := by
  have htest := goes_atEnd (token :: rest)
  rwa [headKind_cons, decide_eq_false h] at htest

lemma goes_advance (token : Token) (rest : List Token) :
    Goes advance (token :: rest) token rest :=
  ⟨[token], rfl, fun _ _ _ => Cursor.advance?_facing⟩

lemma goes_advancePair (first second : Token) (rest : List Token) :
    Goes advancePair (first :: second :: rest) second rest :=
  (goes_advance first _).bind (goes_advance second rest)

lemma goes_accept_cons (h : token.kind = kind) (rest : List Token) :
    Goes (accept kind) (token :: rest) (some token) rest := by
  refine ⟨[token], rfl, fun before end_ _ => ?_⟩
  rw [accept, Cursor.matchKinds?, Cursor.current?_facing, Option.map_some, List.headD_cons,
    Cursor.next_facing, h]
  simp

lemma goes_accept_of_ne (left : List Token) (h : headKind left ≠ kind) :
    Goes (accept kind) left none left := by
  refine ⟨[], rfl, fun before end_ hend => ?_⟩
  rw [accept, Cursor.matchKinds?, Cursor.current?_facing, Option.map_some, headD_kind hend,
    List.append_nil]
  simp [h]

/-- What is expected is taken, and nothing else. -/
lemma goes_accept_of_expect (h : Grammar.expect kind left = some rest) :
    ∃ token, Goes (accept kind) left (some token) rest := by
  obtain ⟨token, rfl, hkind⟩ := Grammar.expect_eq_some_iff.1 h
  exact ⟨token, goes_accept_cons hkind rest⟩

lemma headKind_ne_of_expect (hkind : kind ≠ .eof) (h : Grammar.expect kind left = none) :
    headKind left ≠ kind := by
  intro heq
  cases left with
  | nil => exact hkind heq.symm
  | cons token rest =>
    rw [Grammar.expect_eq_some_iff.2 ⟨token, rfl, heq⟩] at h
    cases h

lemma goes_accept_of_expect_eq_none (hkind : kind ≠ .eof) (h : Grammar.expect kind left = none) :
    Goes (accept kind) left none left :=
  goes_accept_of_ne left (headKind_ne_of_expect hkind h)

/-- What is optional is taken if it is there. -/
lemma exists_goes_accept (kind : TokenKind) (hkind : kind ≠ .eof) (left : List Token) :
    ∃ found : Option Token, found.isSome = (Grammar.optional kind left).1 ∧
      Goes (accept kind) left found (Grammar.optional kind left).2 := by
  cases left with
  | nil => exact ⟨none, rfl, goes_accept_of_ne [] hkind.symm⟩
  | cons token rest =>
    by_cases h : token.kind = kind
    · exact ⟨some token, by simp [Grammar.optional, h], by
        simpa [Grammar.optional, h] using goes_accept_cons h rest⟩
    · exact ⟨none, by simp [Grammar.optional, h], by
        simpa [Grammar.optional, h] using goes_accept_of_ne (token :: rest) h⟩

/-- A look at a token leaves the cursor; the token may be the last one. -/
lemma goes_look {look : Walk Token} {seen : Token → Token} {next : Token → Walk β} {result : β}
    (hlook : ∀ before end_, look (facing before left end_) =
      some (seen end_, facing before left end_))
    (h : ∀ end_, end_.kind = .eof → Goes (next (seen end_)) left result rest) :
    Goes (look >>= next) left result rest := by
  obtain ⟨taken, hleft, -⟩ := h (.endAt .start) rfl
  refine ⟨taken, hleft, fun before end_ hend => ?_⟩
  obtain ⟨taken', hleft', hnext⟩ := h end_ hend
  obtain rfl := List.append_cancel_right (hleft.symm.trans hleft')
  rw [bind_apply (hlook before end_)]
  exact hnext before end_ hend

/-- The token under the cursor is the first one that is left, or the last one of all. -/
lemma goes_current {next : Token → Walk β} {result : β}
    (h : ∀ end_, end_.kind = .eof → Goes (next (left.headD end_)) left result rest) :
    Goes (current >>= next) left result rest :=
  goes_look (fun before end_ => by rw [current, Cursor.current?_facing]; rfl) h

/-- The token ahead is the second one that is left, or the last one of all. -/
lemma goes_peek {next : Token → Walk β} {result : β}
    (h : ∀ end_, end_.kind = .eof → Goes (next (left.tail.headD end_)) left result rest) :
    Goes (peek >>= next) left result rest :=
  goes_look (fun before end_ => by rw [peek, Cursor.peek?_facing]; rfl) h

lemma goes_checkPair (kind next : TokenKind) (left : List Token) :
    Goes (checkPair kind next) left
      (decide (headKind left = kind ∧ headKind left.tail = next)) left := by
  by_cases hkind : headKind left = kind
  · refine (goes_check_of_eq left hkind).yes (goes_peek fun end_ hend => ?_)
    rw [headD_kind hend]
    simpa [hkind] using goes_pure (decide (headKind left.tail = next)) left
  · rw [decide_eq_false fun h => hkind h.1]
    exact (goes_check_of_ne left hkind).no (goes_pure false left)

lemma goes_checkPair_true {next : TokenKind} {first second : Token} (hfirst : first.kind = kind)
    (hsecond : second.kind = next) (rest : List Token) :
    Goes (checkPair kind next) (first :: second :: rest) true (first :: second :: rest) := by
  have htest := goes_checkPair kind next (first :: second :: rest)
  rwa [decide_eq_true ⟨hfirst, hsecond⟩] at htest

/-! ### Turns of a loop -/

section Turns

variable {turn : σ → Walk (σ ⊕ β)} {state next : σ} {result : β}

/-- Behind a turn that takes tokens the loop goes on from where the turn leaves the cursor. -/
lemma Goes.loop_next_bind {after : β → Walk α} {value : α}
    (h : Goes (turn state) left (.inl next) mid) (hlt : mid.length < left.length)
    (hnext : Goes (loop turn next >>= after) mid value rest) :
    Goes (loop turn state >>= after) left value rest := by
  obtain ⟨taken, rfl, hturn⟩ := h
  obtain ⟨more, rfl, hmore⟩ := hnext
  refine ⟨taken ++ more, by rw [List.append_assoc], fun before end_ hend => ?_⟩
  have hahead : (facing (before ++ taken) (more ++ rest) end_).ahead <
      (facing before (taken ++ (more ++ rest)) end_).ahead := by
    rwa [Cursor.ahead_facing, Cursor.ahead_facing, Nat.add_lt_add_iff_right]
  have hloop : loop turn state (facing before (taken ++ (more ++ rest)) end_) =
      loop turn next (facing (before ++ taken) (more ++ rest) end_) := by
    rw [loop, hturn before end_ hend]
    exact if_pos hahead
  rw [← List.append_assoc before, ← hmore (before ++ taken) end_ hend]
  exact congrArg (Option.bind · fun found => after found.1 found.2) hloop

lemma Goes.loop_next (h : Goes (turn state) left (.inl next) mid) (hlt : mid.length < left.length)
    (hnext : Goes (loop turn next) mid result rest) : Goes (loop turn state) left result rest := by
  have hbind : Goes (loop turn state >>= pure) left result rest :=
    h.loop_next_bind hlt (hnext.bind (goes_pure result rest))
  rwa [bind_pure] at hbind

lemma Goes.loop_end (h : Goes (turn state) left (.inr result) rest) :
    Goes (loop turn state) left result rest := by
  obtain ⟨taken, rfl, hturn⟩ := h
  refine ⟨taken, rfl, fun before end_ hend => ?_⟩
  rw [loop, hturn before end_ hend]

/-- A reading that goes on behind a turn is tracked if the rest of it is. -/
lemma Tracks.loop_next_bind {after : β → Walk (Option α)}
    {parse more : List Token → Option (α × List Token)}
    (h : Tracks (loop turn next >>= after) more mid) (hturn : Goes (turn state) left (.inl next) mid)
    (hlt : mid.length < left.length) (hparse : parse left = more mid) :
    Tracks (loop turn state >>= after) parse left where
  takes hfound := hturn.loop_next_bind hlt (h.takes (hparse ▸ hfound))
  stops hnone := by
    obtain ⟨rest, hrest⟩ := h.stops (hparse ▸ hnone)
    exact ⟨rest, hturn.loop_next_bind hlt hrest⟩

lemma Tracks.loop_next {turn : σ → Walk (σ ⊕ Option α)} {state next : σ}
    {parse more : List Token → Option (α × List Token)} (h : Tracks (loop turn next) more mid)
    (hturn : Goes (turn state) left (.inl next) mid) (hlt : mid.length < left.length)
    (hparse : parse left = more mid) : Tracks (loop turn state) parse left := by
  have hrest : Tracks (loop turn next >>= pure) more mid := by rwa [bind_pure]
  have hbind : Tracks (loop turn state >>= pure) parse left :=
    hrest.loop_next_bind hturn hlt hparse
  rwa [bind_pure] at hbind

end Turns

end Walk

end BindingSync.Binding
