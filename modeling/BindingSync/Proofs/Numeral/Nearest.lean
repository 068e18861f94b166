import Mathlib.Algebra.Order.Floor.Semifield
import BindingSync.Proofs.Numeral.Decimals
import BindingSync.Proofs.Numeral.Rounding

/-!
# Decimals are read as the nearest numbers

What a quotient is rounded to depends on its value only, and is not smaller for a larger quotient
(`Binary64.rounded_mono`).  A number of the format is rounded to itself
(`Binary64.IsForm.rounded_amount`), and anything else to the nearest one of them
(`Binary64.IsForm.nearest`).  A decimal is read as a number exactly if it is rounded to that number
(`Binary64.ofDecimal_eq_iff`), so whatever lies between a number and a decimal that is read as it is
read as that number too (`Decimal.nearest_of_between`).
-/

namespace BindingSync.Numeral

namespace Binary64

variable {negative : Bool} {num den num' den' mantissa digits : ℕ} {exponent power : ℤ} {q q' : ℚ}

/-- The number of a mantissa and an exponent. -/
def amount (mantissa : ℕ) (exponent : ℤ) : ℚ := mantissa * 2 ^ exponent

lemma amount_add (mantissa count : ℕ) (exponent : ℤ) :
    amount mantissa (exponent + count) = amount (mantissa * 2 ^ count) exponent := by
  rw [amount, amount, zpow_add₀ two_ne_zero, zpow_natCast]
  push_cast
  ring

lemma amount_inj {other : ℕ} : amount mantissa exponent = amount other exponent ↔
    mantissa = other := by
  rw [amount, amount, mul_left_inj' (by positivity), Nat.cast_inj]

/-- On one grid numbers that are less than a unit apart are the same. -/
lemma amount_eq_of_close {other : ℕ}
    (h : |amount mantissa exponent - amount other exponent| < 2 ^ exponent) :
    amount mantissa exponent = amount other exponent := by
  have hunit : (0 : ℚ) < 2 ^ exponent := by positivity
  rw [amount, amount, ← sub_mul, abs_mul, abs_of_pos hunit, mul_lt_iff_lt_one_left hunit] at h
  have hsame : (mantissa : ℤ) - other = 0 := by
    rw [← Int.abs_lt_one_iff]
    exact_mod_cast h
  rw [amount_inj]
  omega

/-! ### Rounding keeps the order -/

/-- Only the value of a quotient counts. -/
lemma roundQuotient_congr (hden : den ≠ 0) (hden' : den' ≠ 0) (h : (num : ℚ) / den = num' / den') :
    roundQuotient num den = roundQuotient num' den' := by
  have hpos := Nat.pos_of_ne_zero hden
  have hpos' := Nat.pos_of_ne_zero hden'
  obtain ⟨hle, heven⟩ := roundQuotient_nearest num hpos (roundQuotient num' den')
  obtain ⟨hle', heven'⟩ := roundQuotient_nearest num' hpos' (roundQuotient num den)
  have herror := abs_le.1 (roundQuotient_error num hpos)
  have herror' := abs_le.1 (roundQuotient_error num' hpos')
  rw [← h] at hle' heven' herror'
  have hsame := le_antisymm hle' hle
  rcases heven hsame with heq | heven
  · exact heq.symm
  rcases heven' hsame.symm with heq | heven'
  · exact heq
  -- two numbers that are both nearest are neighbours, so they are not both even
  have hlow : (roundQuotient num den : ℚ) ≤ roundQuotient num' den' + 1 := by
    linarith [herror.2, herror'.1]
  have hhigh : (roundQuotient num' den' : ℚ) ≤ roundQuotient num den + 1 := by
    linarith [herror.1, herror'.2]
  norm_cast at hlow hhigh
  omega

/-- A larger quotient is not rounded to a smaller number, and of two that are rounded the other way
the values would be the same. -/
lemma roundQuotient_mono (hden : den ≠ 0) (hden' : den' ≠ 0)
    (h : (num : ℚ) / den ≤ num' / den') : roundQuotient num den ≤ roundQuotient num' den' := by
  have hhigh := (abs_le.1 (roundQuotient_error num (Nat.pos_of_ne_zero hden))).2
  have hlow := (abs_le.1 (roundQuotient_error num' (Nat.pos_of_ne_zero hden'))).1
  by_contra! hlt
  have hstep : (roundQuotient num' den' : ℚ) + 1 ≤ roundQuotient num den := by exact_mod_cast hlt
  have heq : (num : ℚ) / den = num' / den' := le_antisymm h (by linarith)
  rw [roundQuotient_congr hden hden' heq] at hlt
  exact lt_irrefl _ hlt

section Grids

variable (hnum : num ≠ 0) (hden : den ≠ 0) (hnum' : num' ≠ 0) (hden' : den' ≠ 0)
include hnum hden hnum' hden'

/-- A larger quotient has no finer grid. -/
lemma gridExponent_mono (h : (num : ℚ) / den ≤ num' / den') :
    gridExponent num den ≤ gridExponent num' den' := by
  obtain ⟨-, hgrid⟩ := gridExponent_spec hnum hden
  obtain ⟨habove, hgrid'⟩ := gridExponent_spec hnum' hden'
  rcases hgrid with hmin | ⟨-, hbelow⟩
  · rcases hgrid' with hmin' | ⟨hlt, -⟩
    · exact (hmin.trans hmin'.symm).le
    · exact hmin.le.trans hlt.le
  · have hlt := (hbelow.trans h).trans_lt habove
    rw [← zpow_natCast, ← zpow_natCast, ← zpow_add₀ two_ne_zero, ← zpow_add₀ two_ne_zero,
      zpow_lt_zpow_iff_right₀ one_lt_two] at hlt
    push_cast at hlt
    omega

omit hnum' hden' in
/-- On any grid but the finest one a mantissa has all its bits. -/
lemma gridMantissa_long (h : minExponent < gridExponent num den) :
    2 ^ 52 ≤ gridMantissa num den := by
  rcases (gridExponent_spec hnum hden).2 with hmin | ⟨-, hbelow⟩
  · exact absurd hmin h.ne'
  · exact le_gridMantissa hden hbelow

lemma gridMantissa_mono (h : (num : ℚ) / den ≤ num' / den') :
    amount (gridMantissa num den) (gridExponent num den) ≤
      amount (gridMantissa num' den') (gridExponent num' den') := by
  rw [amount, amount]
  rcases (gridExponent_mono hnum hden hnum' hden' h).eq_or_lt with heq | hlt
  · have hscaled : ((scale num den (-gridExponent num den)).1 : ℚ) /
        (scale num den (-gridExponent num den)).2 ≤
          (scale num' den' (-gridExponent num' den')).1 /
            (scale num' den' (-gridExponent num' den')).2 := by
      rw [scaled_eq, scaled_eq, heq]
      gcongr
    have hle : gridMantissa num den ≤ gridMantissa num' den' :=
      roundQuotient_mono (scale_den_pos (Nat.pos_of_ne_zero hden)).ne'
        (scale_den_pos (Nat.pos_of_ne_zero hden')).ne' hscaled
    rw [heq]
    gcongr
  · have hmin : minExponent ≤ gridExponent num den := le_max_right _ _
    have hlong : (2 ^ 52 : ℚ) ≤ gridMantissa num' den' := by
      exact_mod_cast gridMantissa_long hnum' hden' (hmin.trans_lt hlt)
    have hshort : (gridMantissa num den : ℚ) ≤ 2 ^ 53 := by
      exact_mod_cast gridMantissa_le hnum hden
    calc (gridMantissa num den : ℚ) * 2 ^ gridExponent num den
        ≤ 2 ^ 53 * 2 ^ gridExponent num den := by gcongr
      _ = 2 ^ 52 * 2 ^ (gridExponent num den + 1) := by
        rw [zpow_add_one₀ two_ne_zero]
        ring
      _ ≤ 2 ^ 52 * 2 ^ gridExponent num' den' := by
        gcongr
        · exact one_le_two
        · omega
      _ ≤ gridMantissa num' den' * 2 ^ gridExponent num' den' := by gcongr

end Grids

/-- What a rational number is rounded to if the range of the format is left out of account. -/
def rounded (q : ℚ) : ℚ :=
  amount (gridMantissa q.num.natAbs q.den) (gridExponent q.num.natAbs q.den)

lemma natAbs_num_div_den (h : 0 ≤ q) : (q.num.natAbs : ℚ) / q.den = q := by
  rw [Nat.cast_natAbs, abs_of_nonneg (Rat.num_nonneg.2 h)]
  exact Rat.num_div_den q

lemma rounded_div (hnum : num ≠ 0) (hden : den ≠ 0) :
    rounded ((num : ℚ) / den) = amount (gridMantissa num den) (gridExponent num den) := by
  have hpos : (0 : ℚ) < num / den := by
    have := Nat.pos_of_ne_zero hnum
    have := Nat.pos_of_ne_zero hden
    positivity
  have hnumerator : ((num : ℚ) / den).num.natAbs ≠ 0 := by
    simpa using hpos.ne'
  have hvalue := natAbs_num_div_den hpos.le
  exact le_antisymm (gridMantissa_mono hnumerator (Rat.den_nz _) hnum hden hvalue.le)
    (gridMantissa_mono hnum hden hnumerator (Rat.den_nz _) hvalue.ge)

lemma exists_div (h : 0 < q) : ∃ num den : ℕ, num ≠ 0 ∧ den ≠ 0 ∧ (num : ℚ) / den = q :=
  ⟨q.num.natAbs, q.den, by simpa using h.ne', q.den_nz, natAbs_num_div_den h.le⟩

lemma rounded_zero : rounded 0 = 0 := by
  have hmantissa : gridMantissa (0 : ℚ).num.natAbs (0 : ℚ).den = 0 := by decide +kernel
  rw [rounded, hmantissa, amount, Nat.cast_zero, zero_mul]

lemma rounded_nonneg (q : ℚ) : 0 ≤ rounded q := by
  rw [rounded, amount]
  positivity

/-- Rounding keeps the order. -/
theorem rounded_mono (h : 0 ≤ q) (hle : q ≤ q') : rounded q ≤ rounded q' := by
  rcases h.eq_or_lt with rfl | hpos
  · rw [rounded_zero]
    exact rounded_nonneg q'
  · obtain ⟨num, den, hnum, hden, rfl⟩ := exists_div hpos
    obtain ⟨num', den', hnum', hden', rfl⟩ := exists_div (hpos.trans_le hle)
    rw [rounded_div hnum hden, rounded_div hnum' hden']
    exact gridMantissa_mono hnum hden hnum' hden' hle

/-- A number is rounded to a mantissa on a grid: the grid is fine enough for the number, not finer
than it has to be, and nothing on it is nearer to the number, or as near unless the mantissa is
even. -/
structure IsRounding (q : ℚ) (mantissa : ℕ) (grid : ℤ) : Prop where
  rounded_eq : rounded q = amount mantissa grid
  lt : q < 2 ^ 53 * 2 ^ grid
  long : grid = minExponent ∨ minExponent < grid ∧ 2 ^ 52 * 2 ^ grid ≤ q
  le : mantissa ≤ 2 ^ 53
  bits : minExponent < grid → 2 ^ 52 ≤ mantissa
  error : |amount mantissa grid - q| ≤ 2 ^ grid / 2
  nearest : ∀ n, |amount mantissa grid - q| ≤ |amount n grid - q|
  even : ∀ n, |amount n grid - q| = |amount mantissa grid - q| → n = mantissa ∨ mantissa % 2 = 0

lemma exists_isRounding (h : 0 < q) : ∃ mantissa grid, IsRounding q mantissa grid := by
  obtain ⟨num, den, hnum, hden, rfl⟩ := exists_div h
  obtain ⟨habove, hgrid⟩ := gridExponent_spec hnum hden
  exact ⟨_, _, rounded_div hnum hden, habove, hgrid, gridMantissa_le hnum hden,
    gridMantissa_long hnum hden, gridMantissa_error hden, fun n => (gridMantissa_nearest hden n).1,
    fun n => (gridMantissa_nearest hden n).2⟩

/-- A grid that is needed for a number is no finer than the least exponent. -/
lemma IsRounding.min_le {grid : ℤ} (h : IsRounding q mantissa grid) : minExponent ≤ grid :=
  h.long.elim Eq.ge fun hlong => hlong.1.le

/-! ### Numbers of the format -/

/-- A mantissa and an exponent as the positive numbers of the format have them, if its upper end is
left out of account. -/
structure IsForm (mantissa : ℕ) (exponent : ℤ) : Prop where
  ne_zero : mantissa ≠ 0
  lt : mantissa < 2 ^ 53
  min_le : minExponent ≤ exponent
  long : minExponent < exponent → 2 ^ 52 ≤ mantissa

lemma IsForm.amount_pos (h : IsForm mantissa exponent) : 0 < amount mantissa exponent := by
  have := Nat.pos_of_ne_zero h.ne_zero
  rw [amount]
  positivity

/-- A number of the format has only one form, or else its mantissa was rounded up to a bit too
many. -/
lemma IsForm.eq_of_amount_eq (h : IsForm mantissa exponent) {other : ℕ} {grid : ℤ}
    (hle : other ≤ 2 ^ 53) (hmin : minExponent ≤ grid) (hlong : minExponent < grid → 2 ^ 52 ≤ other)
    (hsame : amount other grid = amount mantissa exponent) :
    other = mantissa ∧ grid = exponent ∨
      other = 2 ^ 53 ∧ mantissa = 2 ^ 52 ∧ exponent = grid + 1 := by
  have hlt := h.lt
  have hpow : ∀ count : ℕ, 1 ≤ 2 ^ count := fun count => Nat.one_le_two_pow
  rcases lt_trichotomy grid exponent with hfine | rfl | hcoarse
  · obtain ⟨count, hcount⟩ := Int.eq_ofNat_of_zero_le (show 0 ≤ exponent - grid - 1 by omega)
    obtain rfl : exponent = grid + (count + 1 : ℕ) := by
      push_cast
      omega
    rw [amount_add, amount_inj, pow_succ] at hsame
    have hbits := h.long (by omega)
    have hone : count = 0 := by
      by_contra hne
      have htwo : 2 ^ 1 ≤ 2 ^ count :=
        Nat.pow_le_pow_right (by decide) (Nat.one_le_iff_ne_zero.2 hne)
      nlinarith
    subst hone
    exact .inr ⟨by omega, by omega, by push_cast; ring⟩
  · exact .inl ⟨amount_inj.1 hsame, rfl⟩
  · obtain ⟨count, hcount⟩ := Int.eq_ofNat_of_zero_le (show 0 ≤ grid - exponent - 1 by omega)
    obtain rfl : grid = exponent + (count + 1 : ℕ) := by
      push_cast
      omega
    rw [amount_add, amount_inj, pow_succ] at hsame
    have hmin' := h.min_le
    have hbits := hlong (by omega)
    have := hpow count
    nlinarith

/-- A mantissa on a grid is put into the form of the number. -/
lemma onGrid_eq_iff (h : IsForm mantissa exponent) (hmax : exponent ≤ maxExponent) {other : ℕ}
    {grid : ℤ} (hle : other ≤ 2 ^ 53) (hmin : minExponent ≤ grid)
    (hlong : minExponent < grid → 2 ^ 52 ≤ other) :
    onGrid negative other grid = finite negative mantissa exponent ↔
      amount other grid = amount mantissa exponent := by
  have hlt := h.lt
  rw [onGrid, Nat.pow_eq, Nat.pow_eq]
  constructor
  · intro heq
    split_ifs at heq with hbits
    · obtain ⟨-, hmantissa, hexponent⟩ := finite.inj heq
      rw [hbits, ← hmantissa, ← hexponent, ← Nat.cast_one, amount_add, pow_one]
    · obtain ⟨-, rfl, rfl⟩ := finite.inj heq
      rfl
  · intro hsame
    rcases h.eq_of_amount_eq hle hmin hlong hsame with ⟨rfl, rfl⟩ | ⟨rfl, rfl, rfl⟩
    · rw [if_neg hlt.ne, if_neg (not_lt.2 hmax)]
    · rw [if_pos rfl, if_neg (not_lt.2 hmax)]

/-- A quotient is read as a number exactly if it is rounded to it. -/
theorem ofQuotient_eq_iff (h : IsForm mantissa exponent) (hmax : exponent ≤ maxExponent)
    (hnum : num ≠ 0) (hden : den ≠ 0) :
    ofQuotient negative num den = finite negative mantissa exponent ↔
      rounded ((num : ℚ) / den) = amount mantissa exponent := by
  have hmin : minExponent ≤ gridExponent num den := le_max_right _ _
  rw [ofQuotient_eq hnum, rounded_div hnum hden]
  exact onGrid_eq_iff h hmax (gridMantissa_le hnum hden) hmin (gridMantissa_long hnum hden)

/-- What a quotient is read as has the form of a number. -/
lemma isForm_of_ofQuotient {sign : Bool} (hnum : num ≠ 0) (hden : den ≠ 0)
    (h : ofQuotient negative num den = finite sign mantissa exponent) (hne : mantissa ≠ 0) :
    IsForm mantissa exponent ∧ exponent ≤ maxExponent := by
  have hmin : minExponent ≤ gridExponent num den := le_max_right _ _
  have hlt := (ofQuotient_error hnum hden h).1
  rw [ofQuotient_eq hnum, onGrid, Nat.pow_eq, Nat.pow_eq] at h
  split_ifs at h with hbits hmax hmax
  · obtain ⟨-, rfl, rfl⟩ := finite.inj h
    exact ⟨⟨hne, hlt, by omega, fun _ => le_rfl⟩, not_lt.1 hmax⟩
  · obtain ⟨-, rfl, rfl⟩ := finite.inj h
    exact ⟨⟨hne, hlt, hmin, gridMantissa_long hnum hden⟩, not_lt.1 hmax⟩

/-- A number is rounded to itself. -/
theorem IsForm.rounded_amount (h : IsForm mantissa exponent) :
    rounded (amount mantissa exponent) = amount mantissa exponent := by
  obtain ⟨other, grid, hrounding⟩ := exists_isRounding h.amount_pos
  have herror := hrounding.error
  have hlt : (mantissa : ℚ) < 2 ^ 53 := by exact_mod_cast h.lt
  have hunit : (0 : ℚ) < 2 ^ grid := by positivity
  -- the grid of the number is the one that it has, or a finer one
  have hfine : grid ≤ exponent := by
    rcases hrounding.long with rfl | ⟨-, hbelow⟩
    · exact h.min_le
    · have hpowers : (2 : ℚ) ^ 52 * 2 ^ grid < 2 ^ 53 * 2 ^ exponent := by
        refine hbelow.trans_lt ?_
        rw [amount]
        gcongr
      rw [← zpow_natCast, ← zpow_natCast, ← zpow_add₀ two_ne_zero, ← zpow_add₀ two_ne_zero,
        zpow_lt_zpow_iff_right₀ one_lt_two] at hpowers
      push_cast at hpowers
      omega
  obtain ⟨count, hcount⟩ := Int.eq_ofNat_of_zero_le (show 0 ≤ exponent - grid by omega)
  obtain rfl : exponent = grid + count := by omega
  rw [hrounding.rounded_eq, amount_add]
  rw [amount_add] at herror
  refine amount_eq_of_close (herror.trans_lt ?_)
  linarith

/-- What differs from a number by no more than half a unit of the seventeenth digit is rounded to
it. -/
theorem IsForm.rounded_of_close (h : IsForm mantissa exponent)
    (hclose : |q - amount mantissa exponent| ≤ amount mantissa exponent / (2 * 10 ^ 16)) :
    rounded q = amount mantissa exponent := by
  obtain ⟨hbelow, habove⟩ := abs_le.1 hclose
  have hpos := h.amount_pos
  have hlt : amount mantissa exponent ≤ (2 ^ 53 - 1) * 2 ^ exponent := by
    have hle : (mantissa : ℚ) + 1 ≤ 2 ^ 53 := by exact_mod_cast h.lt
    rw [amount]
    gcongr
    linarith
  have hunit : (0 : ℚ) < 2 ^ exponent := by positivity
  obtain ⟨other, grid, hrounding⟩ := exists_isRounding (show 0 < q by linarith)
  have hsize := hrounding.lt
  -- the grid is not coarser than that of the number, which is below the coarser ones
  have hfine : grid ≤ exponent := by
    rcases hrounding.long with rfl | ⟨-, hlong⟩
    · exact h.min_le
    · by_contra! hcoarse
      have hdouble : 2 * (2 : ℚ) ^ exponent ≤ 2 ^ grid := by
        rw [mul_comm, ← zpow_add_one₀ two_ne_zero]
        exact zpow_le_zpow_right₀ one_le_two hcoarse
      linarith
  obtain ⟨count, hcount⟩ := Int.eq_ofNat_of_zero_le (show 0 ≤ exponent - grid by omega)
  obtain rfl : exponent = grid + count := by omega
  rw [hrounding.rounded_eq]
  rw [amount_add] at hbelow habove ⊢
  refine amount_eq_of_close ?_
  rw [abs_lt]
  constructor
  · linarith [(abs_le.1 hrounding.error).1]
  · linarith [(abs_le.1 hrounding.error).2]

/-- A number of the format is on the grid of a rational number, or something on that grid is nearer
to the rational number. -/
lemma IsForm.exists_nearer (h : IsForm mantissa exponent) {other : ℕ} {grid : ℤ}
    (hrounding : IsRounding q other grid) :
    ∃ n, |amount n grid - q| ≤ |amount mantissa exponent - q| ∧
      (|amount mantissa exponent - q| = |amount n grid - q| →
        amount mantissa exponent = amount n grid) := by
  have hlt : (mantissa : ℚ) < 2 ^ 53 := by exact_mod_cast h.lt
  rcases le_or_gt grid exponent with hfine | hcoarse
  · obtain ⟨count, hcount⟩ := Int.eq_ofNat_of_zero_le (show 0 ≤ exponent - grid by omega)
    obtain rfl : exponent = grid + count := by omega
    rw [amount_add]
    exact ⟨_, le_rfl, fun _ => rfl⟩
  · -- the grid begins between the two numbers
    rcases hrounding.long with rfl | ⟨-, hbelow⟩
    · exact absurd h.min_le (not_le.2 hcoarse)
    have hstart : amount mantissa exponent < amount (2 ^ 52) grid :=
      calc amount mantissa exponent < 2 ^ 53 * 2 ^ exponent := by
            rw [amount]
            gcongr
        _ = 2 ^ 52 * 2 ^ (exponent + 1) := by
            rw [zpow_add_one₀ two_ne_zero]
            ring
        _ ≤ 2 ^ 52 * 2 ^ grid :=
            mul_le_mul_of_nonneg_left (zpow_le_zpow_right₀ one_le_two hcoarse) (by positivity)
        _ = amount (2 ^ 52) grid := by rw [amount, Nat.cast_pow, Nat.cast_ofNat]
    have hend : amount (2 ^ 52) grid ≤ q := by
      rw [amount]
      exact_mod_cast hbelow
    have hnearer : |amount (2 ^ 52) grid - q| < |amount mantissa exponent - q| := by
      rw [abs_sub_comm, abs_of_nonneg (sub_nonneg.2 hend), abs_sub_comm,
        abs_of_pos (sub_pos.2 (hstart.trans_le hend))]
      linarith
    exact ⟨_, hnearer.le, fun heq => absurd heq hnearer.ne'⟩

/-- A rational number is rounded to the nearest number of the format, and to the one with the even
mantissa if there are two. -/
theorem IsForm.nearest (h : IsForm mantissa exponent) (hpos : 0 < q)
    (hround : rounded q = amount mantissa exponent) {mantissa' : ℕ} {exponent' : ℤ}
    (h' : IsForm mantissa' exponent') :
    |amount mantissa exponent - q| ≤ |amount mantissa' exponent' - q| ∧
      (|amount mantissa' exponent' - q| = |amount mantissa exponent - q| →
        amount mantissa' exponent' = amount mantissa exponent ∨ mantissa % 2 = 0) := by
  obtain ⟨other, grid, hrounding⟩ := exists_isRounding hpos
  have hsame : amount other grid = amount mantissa exponent :=
    hrounding.rounded_eq.symm.trans hround
  obtain ⟨n, hnearer, heq⟩ := h'.exists_nearer hrounding
  have hnearest := hrounding.nearest n
  rw [← hsame]
  refine ⟨hnearest.trans hnearer, fun htie => ?_⟩
  have htie' : |amount n grid - q| = |amount other grid - q| :=
    le_antisymm (hnearer.trans htie.le) hnearest
  rcases hrounding.even n htie' with rfl | heven
  · exact .inl (heq htie)
  · right
    rcases h.eq_of_amount_eq hrounding.le hrounding.min_le hrounding.bits hsame with
      ⟨rfl, -⟩ | ⟨-, rfl, -⟩
    · exact heven
    · decide

/-! ### The range of the format -/

/-- The first number behind the end of the format. -/
def limit : ℚ := amount (2 ^ 52) (maxExponent + 1)

lemma IsForm.lt_limit (h : IsForm mantissa exponent) (hmax : exponent ≤ maxExponent) :
    amount mantissa exponent < limit := by
  have hlt : (mantissa : ℚ) < 2 ^ 53 := by exact_mod_cast h.lt
  calc amount mantissa exponent < 2 ^ 53 * 2 ^ exponent := by
        rw [amount]
        gcongr
    _ ≤ 2 ^ 53 * 2 ^ maxExponent := by
        gcongr
        exact one_le_two
    _ = limit := by
        rw [limit, amount, zpow_add_one₀ two_ne_zero]
        push_cast
        ring

/-- What is not in the range is not rounded into it. -/
lemma limit_le_rounded (h : limit ≤ q) : limit ≤ rounded q := by
  have hform : IsForm (2 ^ 52) (maxExponent + 1) :=
    ⟨by decide, by decide, by decide, fun _ => le_rfl⟩
  calc limit = rounded limit := hform.rounded_amount.symm
    _ ≤ rounded q := rounded_mono hform.amount_pos.le h

/-- What is nearer to zero than to the least number is rounded to zero. -/
lemma rounded_eq_zero (hpos : 0 < q) (h : q < 2 ^ minExponent / 2) : rounded q = 0 := by
  obtain ⟨mantissa, grid, hrounding⟩ := exists_isRounding hpos
  have hleast : (0 : ℚ) < 2 ^ minExponent := by positivity
  obtain rfl : grid = minExponent := by
    rcases hrounding.long with hmin | ⟨hlt, hbelow⟩
    · exact hmin
    · have hpowers : (2 : ℚ) ^ minExponent ≤ 2 ^ grid := zpow_le_zpow_right₀ one_le_two hlt.le
      linarith
  have hnone : amount 0 minExponent = 0 := by rw [amount, Nat.cast_zero, zero_mul]
  rw [hrounding.rounded_eq, ← hnone]
  refine amount_eq_of_close ?_
  rw [hnone, sub_zero, amount, abs_of_nonneg (by positivity), ← amount]
  linarith [(abs_le.1 hrounding.error).2]

/-- A digit is more than three bits. -/
lemma two_zpow_le {k : ℤ} (hk : 0 ≤ k) : (2 : ℚ) ^ (3 * k) ≤ 10 ^ k := by
  rw [zpow_mul]
  exact zpow_le_zpow_left₀ hk (by norm_num) (by norm_num)

lemma limit_eq : limit = 2 ^ (1024 : ℤ) := by
  rw [limit, amount, Nat.cast_pow, ← zpow_natCast, Nat.cast_ofNat, ← zpow_add₀ two_ne_zero]
  rfl

/-- A decimal with a power that is too small is rounded to zero. -/
lemma neg_le_size (hdigits : digits ≠ 0) (h : rounded (digits * 10 ^ power) ≠ 0) :
    -400 ≤ ((Nat.toDigits 10 digits).length : ℤ) + power := by
  have hhigh := (Decimal.leadingPower_spec (show (Decimal.mk digits power).digits ≠ 0 from hdigits)).2
  have hleading : Decimal.leadingPower ⟨digits, power⟩ =
    power + (Nat.toDigits 10 digits).length - 1 := rfl
  by_contra! hlt
  have hpos : (0 : ℚ) < digits * 10 ^ power := by
    have := Nat.pos_of_ne_zero hdigits
    positivity
  refine h (rounded_eq_zero hpos ?_)
  calc (digits : ℚ) * 10 ^ power < 10 ^ (-400 : ℤ) :=
        hhigh.trans_le (zpow_le_zpow_right₀ (by norm_num) (by omega))
    _ ≤ 2 ^ (-(3 * 400) : ℤ) := by
        rw [zpow_neg, zpow_neg]
        exact inv_anti₀ (by positivity) (two_zpow_le (by decide))
    _ ≤ 2 ^ (minExponent - 1) := zpow_le_zpow_right₀ one_le_two (by decide)
    _ = 2 ^ minExponent / 2 := by rw [zpow_sub_one₀ two_ne_zero, div_eq_mul_inv]

/-- A decimal with a power that is too large is not rounded into the range. -/
lemma size_le (hdigits : digits ≠ 0) (h : rounded (digits * 10 ^ power) < limit) :
    ((Nat.toDigits 10 digits).length : ℤ) + power ≤ 400 := by
  have hlow := (Decimal.leadingPower_spec (show (Decimal.mk digits power).digits ≠ 0 from hdigits)).1
  have hleading : Decimal.leadingPower ⟨digits, power⟩ =
    power + (Nat.toDigits 10 digits).length - 1 := rfl
  by_contra! hlt
  refine absurd h (not_lt.2 (limit_le_rounded ?_))
  calc limit = 2 ^ (1024 : ℤ) := limit_eq
    _ ≤ 2 ^ (3 * 400 : ℤ) := zpow_le_zpow_right₀ one_le_two (by decide)
    _ ≤ 10 ^ (400 : ℤ) := two_zpow_le (by decide)
    _ ≤ digits * 10 ^ power := (zpow_le_zpow_right₀ (by norm_num) (by omega)).trans hlow

/-- A decimal is read as a number exactly if it is rounded to it. -/
theorem ofDecimal_eq_iff (h : IsForm mantissa exponent) (hmax : exponent ≤ maxExponent) :
    ofDecimal negative digits power = finite negative mantissa exponent ↔
      rounded (digits * 10 ^ power) = amount mantissa exponent := by
  constructor
  · intro hread
    obtain ⟨-, num, den, hnum, hden, hvalue, heq⟩ := exists_quotient_of_ofDecimal hread h.ne_zero
    rw [← hvalue, ← ofQuotient_eq_iff h hmax hnum hden, ← heq, hread]
  · intro hround
    have hne : rounded (digits * 10 ^ power) ≠ 0 := hround ▸ h.amount_pos.ne'
    have hdigits : digits ≠ 0 := by
      rintro rfl
      rw [Nat.cast_zero, zero_mul] at hne
      exact hne rounded_zero
    obtain ⟨num, den, hnum, hden, hvalue, heq⟩ := exists_ofDecimal_eq negative hdigits
      (neg_le_size hdigits hne) (size_le hdigits (hround ▸ h.lt_limit hmax))
    rw [heq, ofQuotient_eq_iff h hmax hnum hden, hvalue, hround]

end Binary64

/-! ### Decimals that are read as a number -/

namespace Decimal

open Binary64

variable {decimal other : Decimal} {mantissa : ℕ} {exponent : ℤ}

/-- The number that a decimal is read as. -/
def nearest (decimal : Decimal) : Binary64 :=
  ofDecimal false decimal.digits decimal.power

lemma nearest_cases (decimal : Decimal) : decimal.nearest = .infinite false ∨
    ∃ mantissa exponent, decimal.nearest = finite false mantissa exponent :=
  ofDecimal_cases false decimal.digits decimal.power

lemma digits_ne_zero_of_nearest (h : decimal.nearest = finite false mantissa exponent)
    (hne : mantissa ≠ 0) : decimal.digits ≠ 0 :=
  (exists_quotient_of_ofDecimal h hne).1

lemma isForm_of_nearest (h : decimal.nearest = finite false mantissa exponent)
    (hne : mantissa ≠ 0) : IsForm mantissa exponent ∧ exponent ≤ maxExponent := by
  obtain ⟨-, num, den, hnum, hden, -, heq⟩ := exists_quotient_of_ofDecimal h hne
  exact isForm_of_ofQuotient hnum hden (heq.symm.trans h) hne

variable (h : decimal.nearest = finite false mantissa exponent) (hne : mantissa ≠ 0)
include h hne

lemma rounded_value : rounded decimal.value = amount mantissa exponent := by
  obtain ⟨hform, hmax⟩ := isForm_of_nearest h hne
  exact (ofDecimal_eq_iff hform hmax).1 h

/-- A decimal is read as the nearest number of the format, and as the one with the even mantissa if
there are two. -/
theorem nearest_spec {mantissa' : ℕ} {exponent' : ℤ} (h' : IsForm mantissa' exponent') :
    |amount mantissa exponent - decimal.value| ≤ |amount mantissa' exponent' - decimal.value| ∧
      (|amount mantissa' exponent' - decimal.value| = |amount mantissa exponent - decimal.value| →
        amount mantissa' exponent' = amount mantissa exponent ∨ mantissa % 2 = 0) := by
  have hpos : 0 < decimal.value := by
    have := Nat.pos_of_ne_zero (digits_ne_zero_of_nearest h hne)
    rw [value]
    positivity
  exact (isForm_of_nearest h hne).1.nearest hpos (rounded_value h hne) h'

/-- Between a decimal and the number that it is read as, all decimals are read as that number. -/
lemma nearest_of_between (hbelow : min decimal.value (amount mantissa exponent) ≤ other.value)
    (habove : other.value ≤ max decimal.value (amount mantissa exponent)) :
    other.nearest = finite false mantissa exponent := by
  obtain ⟨hform, hmax⟩ := isForm_of_nearest h hne
  have hround := rounded_value h hne
  have hself := hform.rounded_amount
  refine (ofDecimal_eq_iff hform hmax).2 ?_
  change rounded other.value = _
  have hpos : 0 ≤ decimal.value := by
    rw [value]
    positivity
  rcases le_total decimal.value (amount mantissa exponent) with hle | hle
  · rw [min_eq_left hle] at hbelow
    rw [max_eq_right hle] at habove
    exact le_antisymm (hself ▸ rounded_mono (hpos.trans hbelow) habove)
      (hround ▸ rounded_mono hpos hbelow)
  · rw [min_eq_right hle] at hbelow
    rw [max_eq_left hle] at habove
    exact le_antisymm (hround ▸ rounded_mono (hform.amount_pos.le.trans hbelow) habove)
      (hself ▸ rounded_mono hform.amount_pos.le hbelow)

/-- Only the value of a decimal counts. -/
lemma nearest_of_value_eq (hvalue : other.value = decimal.value) :
    other.nearest = finite false mantissa exponent :=
  nearest_of_between h hne (hvalue ▸ min_le_left _ _) (hvalue ▸ le_max_left _ _)

end Decimal

end BindingSync.Numeral
