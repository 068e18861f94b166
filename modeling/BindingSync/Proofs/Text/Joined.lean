import Mathlib.Data.List.Chain
import Mathlib.Tactic.Common
import BindingSync.Text.WideString

/-!
# Joined strings

Escapes write a character beyond the basic plane as the two halves of a surrogate pair.  Two
halves that stand side by side as code points of their own would be written alike, so they
cannot be told from the character that they make up.  A string is joined if it holds no such
halves.  Strings without any half are joined, and a half that stands alone does no harm.
-/

namespace BindingSync.Text

namespace Point

/-- The code point is the first half of a surrogate pair. -/
def isHigh : Point → Bool
  | char _ => false
  | half place => place.val < 0x400

/-- The code point is the second half of a surrogate pair. -/
def isLow : Point → Bool
  | char _ => false
  | half place => 0x400 ≤ place.val

/-- The two code points are the halves of one character. -/
def IsPair (first second : Point) : Prop :=
  first.isHigh = true ∧ second.isLow = true

instance (first second : Point) : Decidable (IsPair first second) :=
  inferInstanceAs (Decidable (_ ∧ _))

/-- The halves are the code points from `0xd800` on. -/
lemma ofNat_half (place : Fin 0x800) : ofNat (0xd800 + place) = half place := by
  have hplace : firstHalf ≤ 0xd800 + place.val ∧ 0xd800 + place.val - firstHalf < 0x800 := by
    have hlt := place.isLt
    simp only [firstHalf]
    omega
  rw [ofNat, dif_pos hplace, half.injEq]
  exact Fin.ext (Nat.add_sub_cancel_left ..)

/-- Every other code point is a character. -/
lemma ofNat_eq_char {n : Nat} (h : n < 0xd800 ∨ 0xe000 ≤ n) : ofNat n = char (Char.ofNat n) := by
  refine dif_neg fun hhalf => ?_
  rw [firstHalf] at hhalf
  omega

/-- A code point is a character, or it is among the halves. -/
lemma ofNat_cases (n : Nat) :
    ((n < 0xd800 ∨ 0xe000 ≤ n) ∧ ofNat n = char (Char.ofNat n)) ∨
      ∃ place : Fin 0x800, n = 0xd800 + place ∧ ofNat n = half place := by
  by_cases h : n < 0xd800 ∨ 0xe000 ≤ n
  · exact .inl ⟨h, ofNat_eq_char h⟩
  · obtain ⟨place, rfl⟩ : ∃ place : Fin 0x800, n = 0xd800 + place :=
      ⟨⟨n - 0xd800, by omega⟩, by simp only; omega⟩
    exact .inr ⟨place, rfl, ofNat_half place⟩

/-- The first halves are the first half of the halves. -/
lemma isHigh_ofNat_iff {n : Nat} : (ofNat n).isHigh = true ↔ 0xd800 ≤ n ∧ n < 0xdc00 := by
  rcases ofNat_cases n with ⟨h, heq⟩ | ⟨place, rfl, heq⟩
  · rw [heq, isHigh]
    exact iff_of_false Bool.false_ne_true (by omega)
  · rw [heq, isHigh, decide_eq_true_eq]
    omega

/-- The second halves are the second half of the halves. -/
lemma isLow_ofNat_iff {n : Nat} : (ofNat n).isLow = true ↔ 0xdc00 ≤ n ∧ n < 0xe000 := by
  rcases ofNat_cases n with ⟨h, heq⟩ | ⟨place, rfl, heq⟩
  · rw [heq, isLow]
    exact iff_of_false Bool.false_ne_true (by omega)
  · rw [heq, isLow, decide_eq_true_eq]
    omega

/-- No character is a half. -/
lemma toNat_char_lt_or (c : Char) : c.toNat < 0xd800 ∨ 0xe000 ≤ c.toNat := by
  rcases c.valid with h | h
  · exact .inl h
  · exact .inr h.1

/-- A code point is found again from its number. -/
lemma ofNat_toNat (point : Point) : ofNat point.toNat = point := by
  cases point with
  | char c => rw [toNat, ofNat_eq_char (toNat_char_lt_or c), Char.ofNat_toNat]
  | half place => exact ofNat_half place

end Point

namespace WideString

/-- No first half of a surrogate pair stands right in front of a second one. -/
def IsJoined (text : WideString) : Prop :=
  text.points.IsChain fun first second => ¬Point.IsPair first second

instance : DecidablePred IsJoined := fun text =>
  inferInstanceAs (Decidable (text.points.IsChain _))

/-- The string of some code points is joined if they are. -/
lemma isJoined_ofPoints {points : List Point} :
    (ofPoints points).IsJoined ↔
      points.IsChain fun first second => ¬Point.IsPair first second := by
  rw [IsJoined, points_ofPoints]

/-- A string without halves is joined. -/
@[simp] lemma isJoined_plain (text : String) : (plain text).IsJoined := by
  rw [IsJoined, points, List.isChain_map]
  exact List.isChain_iff_getElem.2 fun i hi hpair => Bool.false_ne_true hpair.1

/-- A single code point is joined. -/
@[simp] lemma isJoined_single (point : Point) : (ofPoints [point]).IsJoined :=
  isJoined_ofPoints.2 (.singleton _)

end WideString

end BindingSync.Text
