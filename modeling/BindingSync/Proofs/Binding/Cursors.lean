import Mathlib.Tactic.Common
import BindingSync.Binding.Cursor

/-!
# Cursors and the tokens around them

A cursor has the tokens that are passed behind it and those that are left in front of it, and at the
very end stands a last token (`Cursor.facing`), which is that for the end of the text
(`Cursor.between`).  Its moves are moves of tokens from the one side to the other, and a rule that
matches moves the tokens that it takes.
-/

namespace BindingSync.Binding.Cursor

open BindingSync.Text

/-- The cursor behind some tokens and in front of the others, which a last one follows. -/
def facing (before left : List Token) (last : Token) : Cursor where
  tokens := before ++ (left ++ [last])
  position := before.length

/-- The cursor behind some tokens and in front of the others, which the end of the text follows. -/
def between (before left : List Token) (place : Position) : Cursor where
  tokens := before ++ (left ++ [Token.endAt place])
  position := before.length

variable {α : Type} {rule : Rule α} {before left taken rest : List Token} {end_ : Token}
  {place : Position} {value : α}

/-! ### Tokens at a cursor -/

/-- At a place inside a list the index is the place. -/
lemma indexOf?_of_lt {size : Nat} {index : Int} (hnonneg : 0 ≤ index) (hlt : index < size) :
    indexOf? size index = some index.toNat := by
  have hneg : ¬index < 0 := by omega
  simp only [indexOf?, if_neg hneg, if_pos (And.intro hnonneg hlt)]

lemma position_facing : (facing before left end_).position = before.length :=
  rfl

lemma length_facing : (facing before left end_).tokens.length =
    before.length + left.length + 1 := by
  simp only [facing, List.length_append, List.length_singleton]
  omega

lemma last_facing : (facing before left end_).last = before.length + left.length := by
  rw [last, length_facing]
  omega

lemma ahead_facing : (facing before left end_).ahead = left.length + 1 := by
  rw [ahead, length_facing, position_facing]
  omega

/-- The token at a distance from the cursor. -/
lemma tokenAt?_facing {distance : Nat} (h : distance ≤ left.length) :
    (facing before left end_).tokenAt? (before.length + distance) =
      (left ++ [end_])[distance]? := by
  have hlt : (before.length : Int) + distance < (facing before left end_).tokens.length := by
    rw [length_facing]
    omega
  rw [tokenAt?, indexOf?_of_lt (by omega) hlt, Option.bind_some, facing,
    show ((before.length : Int) + distance).toNat = before.length + distance by omega,
    List.getElem?_append_right (Nat.le_add_right _ _), Nat.add_sub_cancel_left]

lemma current?_facing : (facing before left end_).current? = some (left.headD end_) := by
  have h : (facing before left end_).tokenAt? (before.length + (0 : Nat)) = _ :=
    tokenAt?_facing (Nat.zero_le left.length)
  rw [Int.natCast_zero, Int.add_zero] at h
  rw [current?, position_facing, h]
  cases left <;> rfl

lemma peek?_facing : (facing before left end_).peek? 1 = some (left.tail.headD end_) := by
  have hplace : min ((facing before left end_).position + 1) (facing before left end_).last =
      before.length + (min 1 left.length : Nat) := by
    rw [last_facing, position_facing]
    omega
  rw [peek?, hplace, tokenAt?_facing (Nat.min_le_right _ _)]
  match left with
  | [] => rfl
  | [_] => rfl
  | _ :: _ :: _ => simp

lemma next_facing {token : Token} :
    (facing before (token :: rest) end_).next = facing (before ++ [token]) rest end_ := by
  have hlt : (facing before (token :: rest) end_).position <
      (facing before (token :: rest) end_).last := by
    rw [last_facing, position_facing, List.length_cons]
    omega
  rw [next, if_pos hlt]
  simp [facing, reset]

lemma advance?_facing {token : Token} : (facing before (token :: rest) end_).advance? =
    some (token, facing (before ++ [token]) rest end_) := by
  rw [advance?, current?_facing, Option.map_some, next_facing, List.headD_cons]

/-! ### Rules at a cursor -/

/-- The tokens behind a cursor are left. -/
lemma remaining?_facing : (facing before left end_).remaining? = some left := by
  have hlt : (before.length : Int) < (facing before left end_).tokens.length := by
    rw [length_facing]
    omega
  rw [remaining?, position_facing, indexOf?_of_lt (Int.natCast_nonneg _) hlt, Option.map_some,
    Int.toNat_natCast, facing, ← List.append_assoc, List.dropLast_concat, List.drop_left]

/-- Taking tokens moves a cursor over them. -/
lemma afterTaking_facing :
    (facing before (taken ++ rest) end_).afterTaking (taken ++ rest) rest =
      facing (before ++ taken) rest end_ := by
  simp only [afterTaking, reset, facing, List.length_append, List.append_assoc, Cursor.mk.injEq,
    true_and]
  omega

/-- A rule that matches moves the cursor over what it takes. -/
lemma runRule?_facing_eq_some (h : rule.parse (taken ++ rest) = some (value, rest)) :
    (facing before (taken ++ rest) end_).runRule? rule =
      some (some value, facing (before ++ taken) rest end_) := by
  rw [runRule?, remaining?_facing, Option.map_some, h, ← afterTaking_facing]

/-- A rule that does not match leaves the cursor where it is. -/
lemma runRule?_facing_eq_none (h : rule.parse left = none) :
    (facing before left end_).runRule? rule = some (none, facing before left end_) := by
  rw [runRule?, remaining?_facing, Option.map_some, h]

lemma remaining?_between : (between before left place).remaining? = some left :=
  remaining?_facing

lemma afterTaking_between :
    (between before (taken ++ rest) place).afterTaking (taken ++ rest) rest =
      between (before ++ taken) rest place :=
  afterTaking_facing

lemma runRule?_between_eq_some (h : rule.parse (taken ++ rest) = some (value, rest)) :
    (between before (taken ++ rest) place).runRule? rule =
      some (some value, between (before ++ taken) rest place) :=
  runRule?_facing_eq_some h

lemma runRule?_between_eq_none (h : rule.parse left = none) :
    (between before left place).runRule? rule = some (none, between before left place) :=
  runRule?_facing_eq_none h

end BindingSync.Binding.Cursor
