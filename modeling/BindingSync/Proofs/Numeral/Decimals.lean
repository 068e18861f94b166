import Mathlib.Algebra.Order.Field.Power
import Mathlib.Data.Rat.Defs
import Mathlib.Tactic.Positivity
import Mathlib.Tactic.Ring
import BindingSync.Numeral.Shortest

/-!
# Decimals as rational numbers

A decimal writes a rational number (`Decimal.value`), which stays the same where zeros at the end of
the digits are taken off (`Decimal.value_trim`).  The place of its first digit tells its size
(`Decimal.leadingPower_spec`).
-/

namespace BindingSync.Numeral

/-- The decimal digits of a number are as many as its size asks for. -/
lemma toDigits_bounds {n : ℕ} (h : n ≠ 0) :
    10 ^ ((Nat.toDigits 10 n).length - 1) ≤ n ∧ n < 10 ^ (Nat.toDigits 10 n).length := by
  have hpos : 0 < (Nat.toDigits 10 n).length := List.length_pos_iff.2 Nat.toDigits_ne_nil
  refine ⟨?_, (Nat.length_toDigits_le_iff (by decide) hpos).1 le_rfl⟩
  by_contra hlt
  by_cases hone : (Nat.toDigits 10 n).length = 1
  · rw [hone] at hlt
    omega
  · have hle := (Nat.length_toDigits_le_iff (by decide) (by omega)).2 (not_le.1 hlt)
    omega

namespace Decimal

/-- The rational number that a decimal writes. -/
def value (decimal : Decimal) : ℚ := decimal.digits * 10 ^ decimal.power

/-- The digits of a decimal do not end with a zero. -/
def IsTrimmed (decimal : Decimal) : Prop := decimal.digits % 10 ≠ 0

lemma IsTrimmed.digits_ne_zero {decimal : Decimal} (h : decimal.IsTrimmed) :
    decimal.digits ≠ 0 := by
  intro hzero
  exact h (by rw [hzero])

lemma eq_of_value_eq {decimal other : Decimal} (hpower : decimal.power = other.power)
    (hvalue : decimal.value = other.value) : decimal = other := by
  obtain ⟨digits, power⟩ := decimal
  obtain ⟨digits', power'⟩ := other
  obtain rfl : power = power' := hpower
  rw [value, value, mul_left_inj' (by positivity), Nat.cast_inj] at hvalue
  rw [mk.injEq]
  exact ⟨hvalue, rfl⟩

lemma value_trim (bound : ℕ) (decimal : Decimal) : (decimal.trim bound).value = decimal.value := by
  induction bound generalizing decimal with
  | zero => rfl
  | succ bound ih =>
    rw [trim]
    split_ifs with hzero
    · obtain ⟨digits, power⟩ := decimal
      obtain ⟨rest, rfl⟩ := Nat.dvd_of_mod_eq_zero hzero.2
      rw [ih, Nat.mul_div_cancel_left _ (by decide)]
      simp only [value]
      rw [zpow_add_one₀ (by norm_num)]
      push_cast
      ring
    · rfl

/-- A bound below the number of digits is enough to take all zeros off. -/
lemma isTrimmed_trim {bound : ℕ} {decimal : Decimal} (hne : decimal.digits ≠ 0)
    (hlt : decimal.digits < 10 ^ (bound + 1)) : (decimal.trim bound).IsTrimmed := by
  induction bound generalizing decimal with
  | zero =>
    rw [trim, IsTrimmed]
    omega
  | succ bound ih =>
    rw [trim]
    split_ifs with hzero
    · refine ih ?_ ?_
      · dsimp only
        omega
      · rw [pow_succ] at hlt
        dsimp only
        omega
    · exact fun h => hzero ⟨hne, h⟩

/-- The power of the first digit tells the size of a decimal. -/
lemma leadingPower_spec {decimal : Decimal} (h : decimal.digits ≠ 0) :
    (10 : ℚ) ^ decimal.leadingPower ≤ decimal.value ∧
      decimal.value < 10 ^ (decimal.leadingPower + 1) := by
  obtain ⟨hlow, hhigh⟩ := toDigits_bounds h
  have hlength : 0 < (Nat.toDigits 10 decimal.digits).length :=
    List.length_pos_iff.2 Nat.toDigits_ne_nil
  have hlow' : (10 : ℚ) ^ ((Nat.toDigits 10 decimal.digits).length - 1) ≤ decimal.digits := by
    exact_mod_cast hlow
  have hhigh' : (decimal.digits : ℚ) < 10 ^ (Nat.toDigits 10 decimal.digits).length := by
    exact_mod_cast hhigh
  have hpower : (0 : ℚ) < 10 ^ decimal.power := by positivity
  constructor
  · calc (10 : ℚ) ^ decimal.leadingPower
        = 10 ^ ((Nat.toDigits 10 decimal.digits).length - 1) * 10 ^ decimal.power := by
          rw [← zpow_natCast, ← zpow_add₀ (by norm_num), leadingPower, Nat.cast_sub hlength]
          congr 1
          push_cast
          ring
      _ ≤ decimal.value := by
        rw [value]
        gcongr
  · calc decimal.value < 10 ^ (Nat.toDigits 10 decimal.digits).length * 10 ^ decimal.power := by
          rw [value]
          gcongr
      _ = 10 ^ (decimal.leadingPower + 1) := by
        rw [← zpow_natCast, ← zpow_add₀ (by norm_num), leadingPower]
        congr 1
        ring

end Decimal

end BindingSync.Numeral
