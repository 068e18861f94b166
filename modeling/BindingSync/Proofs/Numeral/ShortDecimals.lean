import BindingSync.Proofs.Numeral.Shortest

/-!
# Decimals of few digits

A decimal of at most fifteen digits is read as a number from which it can be written again: no other
decimal with a power of ten at least as large is read as that number
(`Decimal.value_eq_of_few`), and the shortest digits of the number have no smaller power, so they
are those of the decimal (`Decimal.isShortest_of_few`).
-/

namespace BindingSync.Numeral.Decimal

open Binary64 (amount finite)

variable {decimal other : Decimal} {mantissa : ℕ} {exponent : ℤ}

section Read

variable (hfew : decimal.digits < 10 ^ 15) (hlong : 2 ^ 52 ≤ mantissa)
  (hread : decimal.nearest = finite false mantissa exponent)
include hfew hlong hread

/-- A unit of the last place of a number with all its bits is far below one of a decimal of few
digits. -/
lemma unit_lt : 4 * (2 : ℚ) ^ exponent < 10 ^ decimal.power := by
  have hfew' : (decimal.digits : ℚ) < 10 ^ 15 := by exact_mod_cast hfew
  have hlong' : (2 : ℚ) ^ 52 ≤ mantissa := by exact_mod_cast hlong
  obtain ⟨-, -, herror⟩ := Binary64.ofDecimal_error hread (by omega)
  have hunit : (0 : ℚ) < 2 ^ exponent := by positivity
  have hten : (0 : ℚ) < 10 ^ decimal.power := by positivity
  have hbits : (2 : ℚ) ^ 52 * 2 ^ exponent ≤ mantissa * 2 ^ exponent := by gcongr
  have hdigits : (decimal.digits : ℚ) * 10 ^ decimal.power < 10 ^ 15 * 10 ^ decimal.power := by
    gcongr
  have := (abs_le.1 herror).2
  linarith

/-- A decimal that is read as the same number, with a power of ten that is no smaller, is the same
decimal. -/
theorem value_eq_of_few (hle : decimal.power ≤ other.power)
    (hother : other.nearest = finite false mantissa exponent) : other.value = decimal.value := by
  obtain ⟨-, -, herror⟩ := Binary64.ofDecimal_error hread (by omega)
  obtain ⟨-, -, herror'⟩ := Binary64.ofDecimal_error hother (by omega)
  have hlt := unit_lt hfew hlong hread
  have hunit : (0 : ℚ) < 2 ^ exponent := by positivity
  have hten : (0 : ℚ) < 10 ^ decimal.power := by positivity
  obtain ⟨k, hk⟩ := Int.eq_ofNat_of_zero_le (show 0 ≤ other.power - decimal.power by omega)
  obtain hpower : other.power = k + decimal.power := by omega
  have hvalue : (other.digits : ℚ) * 10 ^ other.power =
      (other.digits * 10 ^ k : ℕ) * 10 ^ decimal.power := by
    rw [hpower, zpow_add₀ (by norm_num), zpow_natCast]
    push_cast
    ring
  rw [value, value, hvalue]
  rw [hvalue] at herror'
  generalize other.digits * 10 ^ k = n at *
  have habove : (n : ℚ) * 10 ^ decimal.power < (decimal.digits + 1 : ℕ) * 10 ^ decimal.power := by
    push_cast
    linarith [(abs_le.1 herror).2, (abs_le.1 herror').1]
  have hbelow : (decimal.digits : ℚ) * 10 ^ decimal.power < (n + 1 : ℕ) * 10 ^ decimal.power := by
    push_cast
    linarith [(abs_le.1 herror).1, (abs_le.1 herror').2]
  have hle : n ≤ decimal.digits :=
    Nat.le_of_lt_succ (by exact_mod_cast lt_of_mul_lt_mul_right habove hten.le)
  have hge : decimal.digits ≤ n :=
    Nat.le_of_lt_succ (by exact_mod_cast lt_of_mul_lt_mul_right hbelow hten.le)
  rw [le_antisymm hle hge]

end Read

/-- The best decimal of a number has no smaller power of ten than any decimal that is read as it and
does not end in front of its first digit. -/
lemma IsBest.power_le {count : ℕ} (h : IsBest count other) (hsame : decimal.nearest = other.nearest)
    (hlarge : (10 : ℚ) ^ decimal.power ≤ other.nearest.absValue) : decimal.power ≤ other.power := by
  obtain ⟨mantissa, exponent, hne, hread⟩ := h.exists_finite
  have hpowers := hlarge.trans_lt h.nearest_lt
  rw [zpow_lt_zpow_iff_right₀ (by norm_num)] at hpowers
  by_contra! hlt
  -- the power of ten above the number is read as the number too, and has only one digit
  have habove : (10 : ℚ) ^ (other.power + count + 1) ≤ decimal.value := by
    have hfewest : ((10 ^ count : ℕ) : ℚ) ≤ decimal.digits := by
      exact_mod_cast h.fewest decimal hsame
    calc (10 : ℚ) ^ (other.power + count + 1) ≤ 10 ^ (count + decimal.power) :=
          zpow_le_zpow_right₀ (by norm_num) (by omega)
      _ = (10 ^ count : ℕ) * 10 ^ decimal.power := by
          rw [zpow_add₀ (by norm_num), zpow_natCast, Nat.cast_pow, Nat.cast_ofNat]
      _ ≤ decimal.value := by
          rw [value]
          gcongr
  have hone : (Decimal.mk 1 (other.power + count + 1)).value = 10 ^ (other.power + count + 1) := by
    rw [value, Nat.cast_one, one_mul]
  have hbelow : amount mantissa exponent ≤ 10 ^ (other.power + count + 1) := by
    have hsize := h.nearest_lt
    rw [hread, Binary64.absValue] at hsize
    exact hsize.le
  have hreadOne : (Decimal.mk 1 (other.power + count + 1)).nearest = other.nearest := by
    rw [hread]
    refine nearest_of_between (hsame.trans hread) hne ?_ ?_
    · exact min_le_of_right_le (hbelow.trans hone.ge)
    · exact le_max_of_le_left (hone.le.trans habove)
  have hcount : 10 ^ count < 10 ^ 1 := (h.fewest _ hreadOne).trans_lt (show 1 < 10 ^ 1 by norm_num)
  rw [Nat.pow_lt_pow_iff_right (by decide)] at hcount
  omega

/-- A decimal of few digits is the shortest one of the number that it is read as. -/
lemma isShortest_of_read (hfew : decimal.digits < 10 ^ 15) (hlong : 2 ^ 52 ≤ mantissa)
    (hread : decimal.nearest = finite false mantissa exponent)
    (hlarge : (10 : ℚ) ^ decimal.power ≤ amount mantissa exponent) : decimal.IsShortest := by
  obtain ⟨hform, hmax⟩ := isForm_of_nearest hread (by omega)
  obtain ⟨hsearched, count, -, hbest⟩ := Shortest.exists_isBest hform hmax
  refine ⟨count, _, hbest, value_eq_of_few hfew hlong hread ?_ hsearched⟩
  refine hbest.power_le (hread.trans hsearched.symm) ?_
  rw [hsearched]
  exact hlarge

lemma isShortest_of_two_le (htwo : 2 ≤ decimal.digits) (hfew : decimal.digits < 10 ^ 15)
    (hlow : -300 ≤ decimal.power) (hhigh : decimal.power ≤ 285) : decimal.IsShortest := by
  obtain ⟨mantissa, exponent, hread, hlong⟩ :=
    Binary64.exists_ofDecimal false (by omega) hfew hlow hhigh
  refine isShortest_of_read hfew hlong hread ?_
  obtain ⟨-, -, herror⟩ := Binary64.ofDecimal_error hread (by omega)
  have htwo' : (2 : ℚ) ≤ decimal.digits := by exact_mod_cast htwo
  have hunit := unit_lt hfew hlong hread
  have hpos : (0 : ℚ) < 2 ^ exponent := by positivity
  have hdouble : 2 * (10 : ℚ) ^ decimal.power ≤ decimal.digits * 10 ^ decimal.power := by gcongr
  rw [amount]
  linarith [(abs_le.1 herror).1]

/-- At most fifteen digits are the shortest ones, far from the ends of the range. -/
theorem isShortest_of_few (hne : decimal.digits ≠ 0) (hfew : decimal.digits < 10 ^ 15)
    (hlow : -299 ≤ decimal.power) (hhigh : decimal.power ≤ 285) : decimal.IsShortest := by
  by_cases htwo : 2 ≤ decimal.digits
  · exact isShortest_of_two_le htwo hfew (by omega) hhigh
  · -- the number may be below a power of ten, so this one is written with two digits
    obtain ⟨digits, power⟩ := decimal
    dsimp only at hne htwo hlow hhigh
    have htens : (Decimal.mk 10 (power - 1)).IsShortest :=
      isShortest_of_two_le (show 2 ≤ 10 by decide) (show 10 < 10 ^ 15 by decide)
        (show -300 ≤ power - 1 by omega) (show power - 1 ≤ 285 by omega)
    refine htens.of_value_eq ?_
    rw [value, value, zpow_sub_one₀ (by norm_num), show digits = 1 by omega]
    push_cast
    ring

end BindingSync.Numeral.Decimal
