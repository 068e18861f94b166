import Mathlib.Algebra.Order.Field.Power
import Mathlib.Data.Rat.Floor
import Mathlib.Tactic.FieldSimp
import Mathlib.Tactic.Linarith
import Mathlib.Tactic.NormNum
import Mathlib.Tactic.Positivity
import Mathlib.Tactic.Ring
import BindingSync.Numeral.Binary64

/-!
# Rounding to floating-point numbers

A quotient is rounded on a grid of powers of two: the exponent of the grid is chosen by the size of
the quotient before anything is rounded (`Binary64.gridExponent_spec`).  So a finite result is off
by at most half a unit of its last place (`Binary64.ofQuotient_error`), and it has all the bits of a
mantissa where the quotient lies in the range of the format (`Binary64.exists_ofQuotient`).  The
same holds of decimals, which are quotients as long as their powers of ten are not far outside of
the range.
-/

namespace BindingSync.Numeral.Binary64

variable {negative sign : Bool} {num den mantissa digits : ℕ} {exponent power : ℤ}

/-! ### Quotients as rational numbers -/

lemma scale_den_pos (hden : 0 < den) : 0 < (scale num den power).2 := by
  unfold scale
  split
  · exact Nat.mul_pos hden (Nat.pow_pos (by decide))
  · exact hden

lemma scale_eq (num den : ℕ) (power : ℤ) :
    ((scale num den power).1 : ℚ) / (scale num den power).2 = num / den * 2 ^ power := by
  unfold scale
  split
  · obtain ⟨k, hk⟩ := Int.eq_ofNat_of_zero_le (show 0 ≤ -power by omega)
    obtain rfl : power = -k := by omega
    simp [div_eq_mul_inv, mul_assoc, mul_comm]
  · obtain ⟨k, rfl⟩ := Int.eq_ofNat_of_zero_le (show 0 ≤ power by omega)
    simp [div_mul_eq_mul_div]

/-- Rounding to a natural number takes one of the two neighbours. -/
lemma roundQuotient_mem (num den : ℕ) :
    num / den ≤ roundQuotient num den ∧ roundQuotient num den ≤ num / den + 1 := by
  simp only [roundQuotient]
  split_ifs <;> omega

/-- It is off by less than a half, or it is even. -/
lemma roundQuotient_spec (num : ℕ) (hden : 0 < den) :
    |(roundQuotient num den : ℚ) - num / den| < 1 / 2 ∨
      |(roundQuotient num den : ℚ) - num / den| = 1 / 2 ∧ roundQuotient num den % 2 = 0 := by
  have hpos : (0 : ℚ) < den := by exact_mod_cast hden
  have hquotient : (num : ℚ) / den = (num / den : ℕ) + (num % den : ℕ) / den := by
    rw [div_eq_iff hpos.ne', add_mul, div_mul_cancel₀ _ hpos.ne', mul_comm]
    exact_mod_cast (Nat.div_add_mod num den).symm
  have hnonneg : (0 : ℚ) ≤ (num % den : ℕ) / den := by positivity
  have hone : ((num % den : ℕ) : ℚ) / den < 1 := by
    rw [div_lt_one hpos]
    exact_mod_cast Nat.mod_lt num hden
  have hless : ((num % den : ℕ) : ℚ) / den < 1 / 2 ↔ 2 * (num % den) < den := by
    rw [div_lt_div_iff₀ hpos two_pos]
    exact_mod_cast (by omega : (num % den) * 2 < 1 * den ↔ 2 * (num % den) < den)
  have hmore : 1 / 2 < ((num % den : ℕ) : ℚ) / den ↔ den < 2 * (num % den) := by
    rw [div_lt_div_iff₀ two_pos hpos]
    exact_mod_cast (by omega : 1 * den < (num % den) * 2 ↔ den < 2 * (num % den))
  have hfloor : |((num / den : ℕ) : ℚ) - num / den| = (num % den : ℕ) / den := by
    rw [hquotient, sub_add_cancel_left, abs_neg, abs_of_nonneg hnonneg]
  have hceil : |((num / den + 1 : ℕ) : ℚ) - num / den| = 1 - (num % den : ℕ) / den := by
    rw [hquotient, Nat.cast_add, Nat.cast_one, add_sub_add_left_eq_sub, abs_of_pos (sub_pos.2 hone)]
  simp only [roundQuotient]
  split_ifs with hlow hhigh heven
  · rw [hfloor]
    exact .inl (hless.2 hlow)
  · rw [hceil]
    have := hmore.2 hhigh
    exact .inl (by linarith)
  · have hhalf := le_antisymm (not_lt.1 (mt hmore.1 hhigh)) (not_lt.1 (mt hless.1 hlow))
    rw [hfloor]
    exact .inr ⟨hhalf, heven⟩
  · have hhalf := le_antisymm (not_lt.1 (mt hmore.1 hhigh)) (not_lt.1 (mt hless.1 hlow))
    rw [hceil, hhalf]
    exact .inr ⟨by norm_num, by omega⟩

lemma roundQuotient_error (num : ℕ) (hden : 0 < den) :
    |(roundQuotient num den : ℚ) - num / den| ≤ 1 / 2 :=
  (roundQuotient_spec num hden).elim le_of_lt fun h => h.1.le

/-- No natural number is nearer, and if another one is as near, the quotient is rounded to the even
one. -/
lemma roundQuotient_nearest (num : ℕ) (hden : 0 < den) (n : ℕ) :
    |(roundQuotient num den : ℚ) - num / den| ≤ |(n : ℚ) - num / den| ∧
      (|(n : ℚ) - num / den| = |(roundQuotient num den : ℚ) - num / den| →
        n = roundQuotient num den ∨ roundQuotient num den % 2 = 0) := by
  by_cases hne : n = roundQuotient num den
  · rw [hne]
    exact ⟨le_rfl, fun _ => .inl rfl⟩
  have hapart : (1 : ℚ) ≤ |(n : ℚ) - roundQuotient num den| := by
    exact_mod_cast Int.one_le_abs (show (n : ℤ) - roundQuotient num den ≠ 0 by omega)
  have htriangle := hapart.trans (abs_sub_le (n : ℚ) (num / den) (roundQuotient num den))
  rw [abs_sub_comm (num / den : ℚ)] at htriangle
  rcases roundQuotient_spec num hden with hlt | ⟨hhalf, heven⟩
  · exact ⟨by linarith, fun h => by linarith⟩
  · exact ⟨by linarith, fun _ => .inr heven⟩

/-! ### The rounding of a quotient -/

/-- The number of bits that two numbers have tells how large their quotient is. -/
lemma quotient_bounds (hnum : num ≠ 0) (hden : den ≠ 0) :
    (2 : ℚ) ^ ((num.log2 : ℤ) - den.log2 - 1) < num / den ∧
      (num : ℚ) / den < 2 ^ ((num.log2 : ℤ) - den.log2 + 1) := by
  have hpos : (0 : ℚ) < den := by exact_mod_cast Nat.pos_of_ne_zero hden
  have hnumBelow : (2 : ℚ) ^ num.log2 ≤ num := by exact_mod_cast Nat.log2_self_le hnum
  have hnumAbove : (num : ℚ) < 2 ^ (num.log2 + 1) := by exact_mod_cast Nat.lt_log2_self
  have hdenBelow : (2 : ℚ) ^ den.log2 ≤ den := by exact_mod_cast Nat.log2_self_le hden
  have hdenAbove : (den : ℚ) < 2 ^ (den.log2 + 1) := by exact_mod_cast Nat.lt_log2_self
  constructor
  · rw [lt_div_iff₀ hpos]
    calc (2 : ℚ) ^ ((num.log2 : ℤ) - den.log2 - 1) * den
        < 2 ^ ((num.log2 : ℤ) - den.log2 - 1) * 2 ^ (den.log2 + 1) := by gcongr
      _ = 2 ^ num.log2 := by
        rw [← zpow_natCast, ← zpow_natCast, ← zpow_add₀ two_ne_zero]
        congr 1
        push_cast
        ring
      _ ≤ num := hnumBelow
  · rw [div_lt_iff₀ hpos]
    calc (num : ℚ) < 2 ^ (num.log2 + 1) := hnumAbove
      _ = 2 ^ ((num.log2 : ℤ) - den.log2 + 1) * 2 ^ den.log2 := by
        rw [← zpow_natCast, ← zpow_natCast, ← zpow_add₀ two_ne_zero]
        congr 1
        push_cast
        ring
      _ ≤ 2 ^ ((num.log2 : ℤ) - den.log2 + 1) * den := by gcongr

/-- On its grid a quotient has no more bits than a mantissa, and it has as many, unless the grid is
the finest one that the format allows. -/
lemma gridExponent_spec (hnum : num ≠ 0) (hden : den ≠ 0) :
    (num : ℚ) / den < 2 ^ 53 * 2 ^ gridExponent num den ∧
      (gridExponent num den = minExponent ∨ minExponent < gridExponent num den ∧
        (2 : ℚ) ^ 52 * 2 ^ gridExponent num den ≤ num / den) := by
  obtain ⟨hlow, hhigh⟩ := quotient_bounds hnum hden
  rw [gridExponent]
  set q : ℚ := (num : ℚ) / den with hq
  generalize hguess : (num.log2 : ℤ) - den.log2 - 52 = guess
  have hlow' : (2 : ℚ) ^ 52 * 2 ^ (guess - 1) < q := by
    rw [← zpow_natCast, ← zpow_add₀ two_ne_zero]
    convert hlow using 2
    push_cast
    omega
  have hhigh' : q < (2 : ℚ) ^ 53 * 2 ^ guess := by
    rw [← zpow_natCast, ← zpow_add₀ two_ne_zero]
    convert hhigh using 2
    push_cast
    omega
  have hcompare : (scale num den (-guess)).1 < (scale num den (-guess)).2 * Nat.pow 2 52 ↔
      q < 2 ^ 52 * 2 ^ guess := by
    have hpos : (0 : ℚ) < (scale num den (-guess)).2 := by
      exact_mod_cast scale_den_pos (Nat.pos_of_ne_zero hden)
    have hpower : (0 : ℚ) < 2 ^ guess := by positivity
    rw [← div_lt_iff₀ hpower, div_eq_mul_inv, ← zpow_neg, hq, ← scale_eq, div_lt_iff₀ hpos,
      mul_comm]
    norm_cast
  -- the first guess is too large by one where the quotient has a bit less than the numbers tell
  obtain ⟨normal, hnormal, hbelow, habove⟩ : ∃ normal : ℤ,
      normal = (if (scale num den (-guess)).1 < (scale num den (-guess)).2 * Nat.pow 2 52
        then guess - 1 else guess) ∧
      (2 : ℚ) ^ 52 * 2 ^ normal ≤ q ∧ q < 2 ^ 53 * 2 ^ normal := by
    refine ⟨_, rfl, ?_⟩
    split_ifs with hless
    · refine ⟨hlow'.le, (hcompare.1 hless).trans_le (le_of_eq ?_)⟩
      rw [zpow_sub_one₀ two_ne_zero]
      ring
    · exact ⟨not_lt.1 fun h => hless (hcompare.2 h), hhigh'⟩
  rw [← hnormal]
  refine ⟨habove.trans_le ?_, ?_⟩
  · gcongr
    · norm_num
    · exact le_max_left _ _
  · rcases le_or_gt normal minExponent with hle | hlt
    · exact .inl (max_eq_right hle)
    · rw [max_eq_left hlt.le]
      exact .inr ⟨hlt, hbelow⟩

/-- The mantissa of a quotient that is not zero, before a bit too many is taken off. -/
def gridMantissa (num den : ℕ) : ℕ :=
  roundQuotient (scale num den (-gridExponent num den)).1 (scale num den (-gridExponent num den)).2

lemma ofQuotient_eq (hnum : num ≠ 0) : ofQuotient negative num den =
    onGrid negative (gridMantissa num den) (gridExponent num den) := by
  rw [ofQuotient, if_neg hnum]
  rfl

lemma scaled_eq (num den : ℕ) :
    ((scale num den (-gridExponent num den)).1 : ℚ) / (scale num den (-gridExponent num den)).2 =
      num / den / 2 ^ gridExponent num den := by
  rw [scale_eq, zpow_neg, div_eq_mul_inv (_ / _)]

/-- On its grid the distance from a quotient is counted in units. -/
lemma abs_sub_eq (num den n : ℕ) : |(n : ℚ) * 2 ^ gridExponent num den - num / den| =
    |(n : ℚ) - (scale num den (-gridExponent num den)).1 /
      (scale num den (-gridExponent num den)).2| * 2 ^ gridExponent num den := by
  have hpower : (0 : ℚ) < 2 ^ gridExponent num den := by positivity
  rw [scaled_eq]
  nth_rewrite 3 [← abs_of_pos hpower]
  rw [← abs_mul, sub_mul, div_mul_cancel₀ _ hpower.ne']

/-- On its grid a quotient is off by at most half a unit. -/
lemma gridMantissa_error (hden : den ≠ 0) :
    |(gridMantissa num den : ℚ) * 2 ^ gridExponent num den - num / den| ≤
      2 ^ gridExponent num den / 2 := by
  have hscaled : 0 < (scale num den (-gridExponent num den)).2 :=
    scale_den_pos (Nat.pos_of_ne_zero hden)
  have hround := roundQuotient_error (scale num den (-gridExponent num den)).1 hscaled
  calc |(gridMantissa num den : ℚ) * 2 ^ gridExponent num den - num / den| = _ := abs_sub_eq _ _ _
    _ ≤ 1 / 2 * 2 ^ gridExponent num den := mul_le_mul_of_nonneg_right hround (by positivity)
    _ = 2 ^ gridExponent num den / 2 := by ring

/-- Nothing on the grid is nearer to the quotient, and if something else is as near, the mantissa is
even. -/
lemma gridMantissa_nearest (hden : den ≠ 0) (n : ℕ) :
    |(gridMantissa num den : ℚ) * 2 ^ gridExponent num den - num / den| ≤
        |(n : ℚ) * 2 ^ gridExponent num den - num / den| ∧
      (|(n : ℚ) * 2 ^ gridExponent num den - num / den| =
          |(gridMantissa num den : ℚ) * 2 ^ gridExponent num den - num / den| →
        n = gridMantissa num den ∨ gridMantissa num den % 2 = 0) := by
  have hpower : (0 : ℚ) < 2 ^ gridExponent num den := by positivity
  have hscaled : 0 < (scale num den (-gridExponent num den)).2 :=
    scale_den_pos (Nat.pos_of_ne_zero hden)
  obtain ⟨hle, heven⟩ := roundQuotient_nearest (scale num den (-gridExponent num den)).1 hscaled n
  rw [abs_sub_eq, abs_sub_eq, mul_left_inj' hpower.ne']
  exact ⟨mul_le_mul_of_nonneg_right hle hpower.le, heven⟩

/-- A mantissa is at most a bit too long, and then it is a power of two. -/
lemma gridMantissa_le (hnum : num ≠ 0) (hden : den ≠ 0) : gridMantissa num den ≤ 2 ^ 53 := by
  have hpos : 0 < (scale num den (-gridExponent num den)).2 :=
    scale_den_pos (Nat.pos_of_ne_zero hden)
  have hlt : (scale num den (-gridExponent num den)).1 / (scale num den (-gridExponent num den)).2 <
      2 ^ 53 := by
    rw [Nat.div_lt_iff_lt_mul hpos]
    have hscaled := (div_lt_iff₀ (by positivity)).2 (gridExponent_spec hnum hden).1
    rw [← scaled_eq, div_lt_iff₀ (by exact_mod_cast hpos)] at hscaled
    exact_mod_cast hscaled
  have := (roundQuotient_mem (scale num den (-gridExponent num den)).1
    (scale num den (-gridExponent num den)).2).2
  rw [gridMantissa]
  omega

/-- A mantissa is not too short, unless the grid is the finest one. -/
lemma le_gridMantissa (hden : den ≠ 0)
    (h : (2 : ℚ) ^ 52 * 2 ^ gridExponent num den ≤ num / den) : 2 ^ 52 ≤ gridMantissa num den := by
  have hpos : 0 < (scale num den (-gridExponent num den)).2 :=
    scale_den_pos (Nat.pos_of_ne_zero hden)
  have hle : 2 ^ 52 ≤ (scale num den (-gridExponent num den)).1 /
      (scale num den (-gridExponent num den)).2 := by
    rw [Nat.le_div_iff_mul_le hpos]
    have hscaled := (le_div_iff₀ (by positivity)).2 h
    rw [← scaled_eq, le_div_iff₀ (by exact_mod_cast hpos)] at hscaled
    exact_mod_cast hscaled
  exact hle.trans (roundQuotient_mem _ _).1

/-- A finite number is off by at most half a unit of its last place. -/
theorem ofQuotient_error (hnum : num ≠ 0) (hden : den ≠ 0)
    (h : ofQuotient negative num den = finite sign mantissa exponent) :
    mantissa < 2 ^ 53 ∧ |(mantissa : ℚ) * 2 ^ exponent - num / den| ≤ 2 ^ exponent / 2 := by
  have herror : |(gridMantissa num den : ℚ) * 2 ^ gridExponent num den - num / den| ≤
      2 ^ gridExponent num den / 2 := gridMantissa_error hden
  rw [ofQuotient_eq hnum, onGrid] at h
  split at h
  · next hlong =>
    split at h
    · cases h
    · obtain ⟨-, hmantissa, hexponent⟩ := finite.inj h
      rw [hlong, Nat.pow_eq] at herror
      refine ⟨hmantissa ▸ by norm_num, ?_⟩
      have hsame : ((2 ^ 52 : ℕ) : ℚ) * (2 ^ gridExponent num den * 2) =
          ((2 ^ 53 : ℕ) : ℚ) * 2 ^ gridExponent num den := by
        push_cast
        ring
      have hpower : (0 : ℚ) < 2 ^ gridExponent num den := by positivity
      rw [← hmantissa, ← hexponent, zpow_add_one₀ two_ne_zero, Nat.pow_eq, hsame]
      linarith
  · next hlong =>
    split at h
    · cases h
    · obtain ⟨-, hmantissa, hexponent⟩ := finite.inj h
      rw [← hmantissa, ← hexponent]
      exact ⟨lt_of_le_of_ne (gridMantissa_le hnum hden) hlong, herror⟩

/-- A quotient in the range of the format has a number, whose mantissa has all its bits. -/
theorem exists_ofQuotient (negative : Bool) (hnum : num ≠ 0) (hden : den ≠ 0)
    (hlow : (2 : ℚ) ^ (-1022 : ℤ) ≤ num / den) (hhigh : (num : ℚ) / den < 2 ^ (1022 : ℤ)) :
    ∃ mantissa exponent, ofQuotient negative num den = finite negative mantissa exponent ∧
      2 ^ 52 ≤ mantissa := by
  have hbelow : (2 : ℚ) ^ 52 * 2 ^ gridExponent num den ≤ num / den := by
    obtain hmin | ⟨-, hbelow⟩ := (gridExponent_spec hnum hden).2
    · rw [hmin, minExponent]
      refine le_trans (le_of_eq ?_) hlow
      rw [← zpow_natCast, ← zpow_add₀ two_ne_zero]
      norm_num
    · exact hbelow
  have hexponent : gridExponent num den < 970 := by
    have hlt := hbelow.trans_lt hhigh
    rw [← zpow_natCast, ← zpow_add₀ two_ne_zero, zpow_lt_zpow_iff_right₀ one_lt_two] at hlt
    push_cast at hlt
    omega
  have hlong := le_gridMantissa hden hbelow
  rw [ofQuotient_eq hnum, onGrid, maxExponent]
  split_ifs
  · omega
  · exact ⟨_, _, rfl, le_refl _⟩
  · omega
  · exact ⟨_, _, rfl, hlong⟩

/-! ### The rounding of a decimal -/

/-- A decimal whose power is not far outside of the range is a quotient. -/
lemma exists_ofDecimal_eq (negative : Bool) (hdigits : digits ≠ 0)
    (hlow : -400 ≤ ((Nat.toDigits 10 digits).length : ℤ) + power)
    (hhigh : ((Nat.toDigits 10 digits).length : ℤ) + power ≤ 400) :
    ∃ num den : ℕ, num ≠ 0 ∧ den ≠ 0 ∧ (num : ℚ) / den = digits * 10 ^ power ∧
      ofDecimal negative digits power = ofQuotient negative num den := by
  simp only [ofDecimal, hdigits, false_or, if_neg (not_lt.2 hlow), if_neg (not_lt.2 hhigh)]
  split
  · obtain ⟨k, hk⟩ := Int.eq_ofNat_of_zero_le (show 0 ≤ -power by omega)
    obtain rfl : power = -k := by omega
    refine ⟨digits, _, hdigits, ?_, ?_, rfl⟩
    · simp
    · simp [div_eq_mul_inv]
  · obtain ⟨k, rfl⟩ := Int.eq_ofNat_of_zero_le (show 0 ≤ power by omega)
    refine ⟨_, 1, ?_, one_ne_zero, ?_, rfl⟩
    · simpa using hdigits
    · simp

/-- A decimal that is read as a number other than zero is a quotient. -/
lemma exists_quotient_of_ofDecimal
    (h : ofDecimal negative digits power = finite sign mantissa exponent) (hne : mantissa ≠ 0) :
    digits ≠ 0 ∧ ∃ num den : ℕ, num ≠ 0 ∧ den ≠ 0 ∧ (num : ℚ) / den = digits * 10 ^ power ∧
      ofDecimal negative digits power = ofQuotient negative num den := by
  by_cases hzero : digits = 0 ∨ ((Nat.toDigits 10 digits).length : ℤ) + power < -400
  · rw [ofDecimal, if_pos hzero] at h
    exact absurd (finite.inj h).2.1.symm hne
  · obtain ⟨hdigits, hlow⟩ := not_or.1 hzero
    by_cases hhigh : 400 < ((Nat.toDigits 10 digits).length : ℤ) + power
    · rw [ofDecimal, if_neg hzero, if_pos hhigh] at h
      cases h
    · exact ⟨hdigits, exists_ofDecimal_eq negative hdigits (not_lt.1 hlow) (not_lt.1 hhigh)⟩

/-- A finite number other than zero is off from its decimal by at most half a unit of its last
place. -/
theorem ofDecimal_error (h : ofDecimal negative digits power = finite sign mantissa exponent)
    (hne : mantissa ≠ 0) : digits ≠ 0 ∧ mantissa < 2 ^ 53 ∧
      |(mantissa : ℚ) * 2 ^ exponent - digits * 10 ^ power| ≤ 2 ^ exponent / 2 := by
  obtain ⟨hdigits, num, den, hnum, hden, hvalue, heq⟩ := exists_quotient_of_ofDecimal h hne
  rw [heq] at h
  rw [← hvalue]
  exact ⟨hdigits, ofQuotient_error hnum hden h⟩

lemma ofQuotient_cases (negative : Bool) (num den : ℕ) :
    ofQuotient negative num den = infinite negative ∨
      ∃ mantissa exponent, ofQuotient negative num den = finite negative mantissa exponent := by
  simp only [ofQuotient, onGrid, zero]
  split_ifs <;> simp

/-- A decimal is read as a number of its sign. -/
lemma ofDecimal_cases (negative : Bool) (digits : ℕ) (power : ℤ) :
    ofDecimal negative digits power = infinite negative ∨
      ∃ mantissa exponent, ofDecimal negative digits power = finite negative mantissa exponent := by
  simp only [ofDecimal]
  split_ifs
  · exact .inr ⟨_, _, rfl⟩
  · exact .inl rfl
  · exact ofQuotient_cases _ _ _
  · exact ofQuotient_cases _ _ _

/-- Ten bits are more than three digits. -/
lemma ten_zpow_le {k : ℤ} (hk : 0 ≤ k) : (10 : ℚ) ^ (3 * k) ≤ 2 ^ (10 * k) := by
  rw [zpow_mul, zpow_mul]
  exact zpow_le_zpow_left₀ hk (by norm_num) (by norm_num)

/-- A decimal of few digits has a number, whose mantissa has all its bits. -/
theorem exists_ofDecimal (negative : Bool) (hdigits : digits ≠ 0) (hfew : digits < 10 ^ 15)
    (hlow : -300 ≤ power) (hhigh : power ≤ 285) :
    ∃ mantissa exponent, ofDecimal negative digits power = finite negative mantissa exponent ∧
      2 ^ 52 ≤ mantissa := by
  have hlength : (Nat.toDigits 10 digits).length ≤ 15 :=
    (Nat.length_toDigits_le_iff (by decide) (by decide)).2 hfew
  obtain ⟨num, den, hnum, hden, hvalue, heq⟩ := exists_ofDecimal_eq negative hdigits
    (by omega : -400 ≤ ((Nat.toDigits 10 digits).length : ℤ) + power) (by omega)
  have hone : (1 : ℚ) ≤ digits := by exact_mod_cast Nat.one_le_iff_ne_zero.2 hdigits
  have hfew' : (digits : ℚ) < 10 ^ 15 := by exact_mod_cast hfew
  have hpos : (0 : ℚ) < 10 ^ power := by positivity
  rw [heq]
  refine exists_ofQuotient negative hnum hden ?_ ?_
  · rw [hvalue]
    calc (2 : ℚ) ^ (-1022 : ℤ) ≤ 2 ^ (-(10 * 100) : ℤ) := zpow_le_zpow_right₀ one_le_two (by decide)
      _ ≤ 10 ^ (-(3 * 100) : ℤ) := by
        rw [zpow_neg, zpow_neg]
        exact inv_anti₀ (by positivity) (ten_zpow_le (by decide))
      _ ≤ 10 ^ power := zpow_le_zpow_right₀ (by norm_num) hlow
      _ ≤ digits * 10 ^ power := le_mul_of_one_le_left hpos.le hone
  · rw [hvalue]
    calc (digits : ℚ) * 10 ^ power < 10 ^ 15 * 10 ^ power := by gcongr
      _ ≤ 10 ^ 15 * 10 ^ (285 : ℤ) := by
        gcongr
        norm_num
      _ = 10 ^ (3 * 100 : ℤ) := by
        rw [← zpow_natCast, ← zpow_add₀ (by norm_num)]
        rfl
      _ ≤ 2 ^ (10 * 100 : ℤ) := ten_zpow_le (by decide)
      _ ≤ 2 ^ (1022 : ℤ) := zpow_le_zpow_right₀ one_le_two (by decide)

end BindingSync.Numeral.Binary64
