import BindingSync.Proofs.Numeral.ShortDecimals
import BindingSync.Proofs.Text.Digits

/-!
# Numbers around a point

A number from `10 ^ -4` up to `10 ^ 16` is written with digits around a point: no zero in front but
a single one, and none at the end but a single one (`IsPlain`).  Two such forms of one number are
the same (`IsPlain.eq_of_value_eq`), so digits around a point come back as they are exactly if they
have this form and no shorter digits are read as the same number (`render_nearest_iff`).  Up to
fifteen digits there are none (`Decimal.isShortest_of_few`).
-/

namespace BindingSync.Numeral

open BindingSync.Text
open Binary64 (finite layOut plain)

variable {whole fraction whole' fraction' : List Char} {decimal : Decimal}

/-! ### Digits around a point -/

namespace Decimal

/-- The decimal that digits around a point write. -/
def ofDigits (whole fraction : List Char) : Decimal where
  digits := decimalNumber (whole ++ fraction)
  power := -fraction.length

/-- The decimal is of a size that is written without an exponent. -/
def IsPositional (decimal : Decimal) : Prop :=
  (10 : ℚ) ^ (-4 : ℤ) ≤ decimal.value ∧ decimal.value < 10 ^ (16 : ℤ)

lemma value_ofDigits (whole fraction : List Char) : (ofDigits whole fraction).value =
    decimalNumber whole + decimalNumber fraction / 10 ^ fraction.length := by
  rw [value, ofDigits, decimalNumber_append, zpow_neg, zpow_natCast, ← div_eq_mul_inv]
  push_cast
  rw [add_div, mul_div_cancel_right₀ _ (by positivity)]

/-- The digits in front of the point are the whole part of the number. -/
lemma floor_value_ofDigits (hfraction : ∀ c ∈ fraction, c.isDigit = true) :
    ⌊(ofDigits whole fraction).value⌋₊ = decimalNumber whole := by
  have hlt : (decimalNumber fraction : ℚ) < 10 ^ fraction.length := by
    exact_mod_cast decimalNumber_lt hfraction
  rw [Nat.floor_eq_iff, value_ofDigits]
  · refine ⟨le_add_of_nonneg_right (by positivity), ?_⟩
    gcongr
    rwa [div_lt_one (by positivity)]
  · rw [value_ofDigits]
    positivity

/-- The power of the first digit tells whether an exponent is written. -/
lemma isPositional_iff (h : decimal.digits ≠ 0) :
    decimal.IsPositional ↔ -4 ≤ decimal.leadingPower ∧ decimal.leadingPower < 16 := by
  obtain ⟨hlow, hhigh⟩ := leadingPower_spec h
  constructor
  · rintro ⟨hleast, hmost⟩
    have hfirst := hleast.trans_lt hhigh
    have hlast := hlow.trans_lt hmost
    rw [zpow_lt_zpow_iff_right₀ (by norm_num)] at hfirst hlast
    exact ⟨by omega, hlast⟩
  · rintro ⟨hleast, hmost⟩
    exact ⟨(zpow_le_zpow_right₀ (by norm_num) hleast).trans hlow,
      hhigh.trans_le (zpow_le_zpow_right₀ (by norm_num) hmost)⟩

end Decimal

/-- Digits around a point as a number is written: no zero is in front or at the end, unless it is
the only digit there. -/
structure IsPlain (whole fraction : List Char) : Prop where
  isDigits_whole : IsDigits whole
  isDigits_fraction : IsDigits fraction
  head : whole.head? = some '0' → whole = ['0']
  last : fraction.getLast? = some '0' → fraction = ['0']

/-- More digits behind the point would end with a zero. -/
lemma IsPlain.length_le (h : IsPlain whole fraction) (hother : fraction' ≠ [])
    (hvalue : decimalNumber fraction * 10 ^ fraction'.length =
      decimalNumber fraction' * 10 ^ fraction.length) : fraction.length ≤ fraction'.length := by
  by_contra! hlt
  obtain ⟨count, hcount⟩ := Nat.exists_eq_add_of_lt hlt
  have hpos : 0 < 10 ^ fraction'.length := Nat.pow_pos (by decide)
  have htens : decimalNumber fraction = 10 * (decimalNumber fraction' * 10 ^ count) := by
    refine Nat.eq_of_mul_eq_mul_right hpos (hvalue.trans ?_)
    rw [hcount]
    ring
  have hzero := h.last ((getLast?_eq_some_zero h.isDigits_fraction).2 (by omega))
  have hone : fraction.length = 1 := by rw [hzero]; rfl
  have := List.length_pos_iff.2 hother
  omega

/-- Two such forms of one number are the same. -/
theorem IsPlain.eq_of_value_eq (h : IsPlain whole fraction) (h' : IsPlain whole' fraction')
    (hvalue : (Decimal.ofDigits whole fraction).value = (Decimal.ofDigits whole' fraction').value) :
    whole = whole' ∧ fraction = fraction' := by
  have hnumber : decimalNumber whole = decimalNumber whole' := by
    rw [← Decimal.floor_value_ofDigits h.isDigits_fraction.isDigit, hvalue,
      Decimal.floor_value_ofDigits h'.isDigits_fraction.isDigit]
  have hparts : decimalNumber fraction * 10 ^ fraction'.length =
      decimalNumber fraction' * 10 ^ fraction.length := by
    rw [Decimal.value_ofDigits, Decimal.value_ofDigits, hnumber, add_left_cancel_iff,
      div_eq_div_iff (by positivity) (by positivity)] at hvalue
    exact_mod_cast hvalue
  have hlength : fraction.length = fraction'.length :=
    le_antisymm (h.length_le h'.isDigits_fraction.ne_nil hparts)
      (h'.length_le h.isDigits_fraction.ne_nil hparts.symm)
  rw [hlength] at hparts
  refine ⟨?_, eq_of_decimalNumber_eq h.isDigits_fraction.isDigit h'.isDigits_fraction.isDigit
    hlength (Nat.eq_of_mul_eq_mul_right (Nat.pow_pos (by decide)) hparts)⟩
  rw [← toDigits_decimalNumber h.isDigits_whole h.head, hnumber,
    toDigits_decimalNumber h'.isDigits_whole h'.head]

/-! ### The layout of a decimal -/

/-- The digits of a decimal that does not end with a zero have no zero at either end. -/
lemma Decimal.IsTrimmed.ends (h : decimal.IsTrimmed) :
    (Nat.toDigits 10 decimal.digits).head? ≠ some '0' ∧
      (Nat.toDigits 10 decimal.digits).getLast? ≠ some '0' := by
  constructor
  · obtain ⟨c, rest, hdigits, hc⟩ := head_toDigits h.digits_ne_zero
    simpa [hdigits] using hc
  · rw [Ne, getLast?_eq_some_zero (isDigits_toDigits _), decimalNumber_toDigits]
    exact h

lemma decimalNumber_zeros (count : ℕ) : decimalNumber (List.replicate count '0') = 0 := by
  induction count with
  | zero => rfl
  | succ count ih =>
    rw [List.replicate_succ', decimalNumber_append, ih, decimalNumber_singleton]
    rfl

section Forms

variable {digits : List Char} (hdigits : IsDigits digits)
include hdigits

/-- A number below one has zeros behind the point. -/
lemma isPlain_below (hlast : digits.getLast? ≠ some '0') (count : ℕ) :
    IsPlain ['0'] (List.replicate count '0' ++ digits) where
  isDigits_whole := ⟨by simp, by simp⟩
  isDigits_fraction := ⟨by simp [hdigits.ne_nil], by
    simpa [or_imp, forall_and, List.mem_replicate] using hdigits.isDigit⟩
  head _ := rfl
  last h := by
    rw [List.getLast?_append_of_ne_nil _ hdigits.ne_nil] at h
    exact absurd h hlast

/-- A whole number has a zero behind the point. -/
lemma isPlain_whole (hhead : digits.head? ≠ some '0') (count : ℕ) :
    IsPlain (digits ++ List.replicate count '0') ['0'] where
  isDigits_whole := isDigits_append hdigits (by simp [List.mem_replicate])
  isDigits_fraction := ⟨by simp, by simp⟩
  head h := by
    rw [List.head?_append_of_ne_nil _ hdigits.ne_nil] at h
    exact absurd h hhead
  last _ := rfl

/-- Any other number has its digits on both sides of the point. -/
lemma isPlain_inside (hhead : digits.head? ≠ some '0') (hlast : digits.getLast? ≠ some '0')
    {count : ℕ} (hlt : count + 1 < digits.length) :
    IsPlain (digits.take (count + 1)) (digits.drop (count + 1)) where
  isDigits_whole := ⟨by simp [hdigits.ne_nil], fun c hc =>
    hdigits.isDigit c (List.mem_of_mem_take hc)⟩
  isDigits_fraction := ⟨by simpa using hlt, fun c hc =>
    hdigits.isDigit c (List.mem_of_mem_drop hc)⟩
  head h := by
    rw [List.head?_take, if_neg (Nat.succ_ne_zero count)] at h
    exact absurd h hhead
  last h := by
    rw [List.getLast?_drop, if_neg (not_le.2 hlt)] at h
    exact absurd h hlast

end Forms

/-- A decimal of the right size is written with digits around a point. -/
lemma exists_layOut (htrim : decimal.IsTrimmed) (hsize : decimal.IsPositional) :
    ∃ whole fraction, IsPlain whole fraction ∧
      (Decimal.ofDigits whole fraction).value = decimal.value ∧
        layOut plain decimal = whole ++ '.' :: fraction := by
  have hrange : plain.leastPositional ≤ decimal.leadingPower ∧
      decimal.leadingPower < plain.endPositional :=
    (Decimal.isPositional_iff htrim.digits_ne_zero).1 hsize
  obtain ⟨hhead, hlast⟩ := htrim.ends
  have hdigits := isDigits_toDigits decimal.digits
  have hnumber := decimalNumber_toDigits decimal.digits
  have hleading : decimal.leadingPower =
    decimal.power + (Nat.toDigits 10 decimal.digits).length - 1 := rfl
  have hsame : ∀ {other : Decimal}, other.digits = decimal.digits → other.power = decimal.power →
      other.value = decimal.value := by
    intro other hdigits hpower
    rw [Decimal.value, Decimal.value, hdigits, hpower]
  rw [layOut]
  dsimp only
  rw [if_pos hrange]
  clear hsize htrim
  generalize Nat.toDigits 10 decimal.digits = digits at *
  generalize decimal.leadingPower = leading at *
  have hpos := List.length_pos_iff.2 hdigits.ne_nil
  by_cases hneg : leading < 0
  · rw [if_pos hneg]
    refine ⟨_, _, isPlain_below hdigits hlast (-leading - 1).toNat, hsame ?_ ?_, rfl⟩
    · rw [Decimal.ofDigits, ← List.append_assoc, ← List.replicate_one,
        List.replicate_append_replicate, decimalNumber_append, decimalNumber_zeros, hnumber,
        Nat.zero_mul, Nat.zero_add]
    · simp [Decimal.ofDigits]
      omega
  · rw [if_neg hneg]
    by_cases hle : digits.length ≤ leading.toNat + 1
    · have hlength : (digits ++ List.replicate (leading.toNat + 1 - digits.length) '0').length =
          leading.toNat + 1 := by
        simp
        omega
      rw [List.take_of_length_le hlength.le, List.drop_of_length_le hlength.le]
      refine ⟨_, _, isPlain_whole hdigits hhead _, ?_, rfl⟩
      obtain ⟨count, hcount⟩ := Int.eq_ofNat_of_zero_le (show 0 ≤ decimal.power by omega)
      have hzeros : leading.toNat + 1 - digits.length = count := by omega
      rw [Decimal.value_ofDigits, hzeros, decimalNumber_append, decimalNumber_zeros, hnumber,
        Decimal.value, hcount, List.length_replicate]
      simp [decimalNumber_singleton]
    · have hzeros : leading.toNat + 1 - digits.length = 0 := by omega
      have hlt := not_le.1 hle
      rw [hzeros, List.replicate_zero, List.append_nil, if_neg (by simpa using hlt)]
      refine ⟨_, _, isPlain_inside hdigits hhead hlast hlt, hsame ?_ ?_, rfl⟩
      · rw [Decimal.ofDigits, List.take_append_drop, hnumber]
      · simp only [Decimal.ofDigits, List.length_drop]
        omega

/-- Any other decimal has the mark of an exponent. -/
lemma mem_layOut (htrim : decimal.IsTrimmed) (hsize : ¬decimal.IsPositional) :
    'e' ∈ layOut plain decimal := by
  rw [Decimal.isPositional_iff htrim.digits_ne_zero] at hsize
  have hrange : ¬(plain.leastPositional ≤ decimal.leadingPower ∧
    decimal.leadingPower < plain.endPositional) := hsize
  rw [layOut]
  dsimp only
  rw [if_neg hrange]
  simp

/-! ### Numbers that are read and written -/

namespace Binary64

variable {mantissa : ℕ}

lemma render_zero (exponent : ℤ) : render (finite false 0 exponent) = "0.0" :=
  rfl

lemma render_finite (hne : mantissa ≠ 0) (exponent : ℤ) : render (finite false mantissa exponent) =
    String.ofList (layOut plain (Shortest.decimal mantissa exponent)) := by
  rw [render, renderWith, if_neg hne]
  exact String.empty_append

end Binary64

/-- A single point takes digits apart in one way only. -/
lemma eq_of_append_point (hwhole : IsDigits whole) (hwhole' : IsDigits whole')
    (h : whole ++ '.' :: fraction = whole' ++ '.' :: fraction') :
    whole = whole' ∧ fraction = fraction' := by
  have hsplit : ∀ {front back : List Char}, IsDigits front →
      (front ++ '.' :: back).takeWhile Char.isDigit = front ∧
        (front ++ '.' :: back).dropWhile Char.isDigit = '.' :: back :=
    fun hfront => takeWhile_append_of_head hfront.isDigit (by simp)
  obtain ⟨hfront, hback⟩ := hsplit hwhole
  rw [h, (hsplit hwhole').1] at hfront
  rw [h, (hsplit hwhole').2] at hback
  exact ⟨hfront.symm, (List.cons.inj hback).2.symm⟩

/-- Two zeros are the only form of a zero. -/
lemma IsPlain.digits_eq_zero_iff (h : IsPlain whole fraction) :
    (Decimal.ofDigits whole fraction).digits = 0 ↔ whole = ['0'] ∧ fraction = ['0'] := by
  refine ⟨fun hzero => ?_, ?_⟩
  · rw [Decimal.ofDigits, decimalNumber_append, Nat.add_eq_zero_iff] at hzero
    have hwhole : decimalNumber whole = 0 := by simpa using hzero.1
    refine ⟨?_, h.last ((getLast?_eq_some_zero h.isDigits_fraction).2 (by rw [hzero.2]))⟩
    rw [← toDigits_decimalNumber h.isDigits_whole h.head, hwhole]
    rfl
  · rintro ⟨rfl, rfl⟩
    rfl

lemma isPlain_zeros : IsPlain ['0'] ['0'] :=
  ⟨⟨by simp, by simp⟩, ⟨by simp, by simp⟩, fun _ => rfl, fun _ => rfl⟩

/-- A decimal is written as digits around a point exactly if it has their value and they have the
form of a number without an exponent. -/
lemma layOut_eq_iff (htrim : decimal.IsTrimmed) (hwhole : IsDigits whole)
    (hfraction : IsDigits fraction) :
    layOut plain decimal = whole ++ '.' :: fraction ↔
      IsPlain whole fraction ∧ (Decimal.ofDigits whole fraction).IsPositional ∧
        decimal.value = (Decimal.ofDigits whole fraction).value := by
  by_cases hsize : decimal.IsPositional
  · obtain ⟨whole', fraction', hplain', hvalue', hform⟩ := exists_layOut htrim hsize
    rw [hform, ← hvalue']
    constructor
    · intro hsame
      obtain ⟨rfl, rfl⟩ := eq_of_append_point hplain'.isDigits_whole hwhole hsame
      refine ⟨hplain', ?_, rfl⟩
      rwa [Decimal.IsPositional, hvalue']
    · rintro ⟨hplain, -, hvalue⟩
      obtain ⟨rfl, rfl⟩ := hplain'.eq_of_value_eq hplain hvalue
      rfl
  · constructor
    · intro hsame
      have hexponent := mem_layOut htrim hsize
      rw [hsame, List.mem_append, List.mem_cons] at hexponent
      rcases hexponent with hmem | hmem | hmem
      · exact absurd rfl (hwhole.ne_of_mem (d := 'e') (by decide) 'e' hmem)
      · exact absurd hmem (by decide)
      · exact absurd rfl (hfraction.ne_of_mem (d := 'e') (by decide) 'e' hmem)
    · rintro ⟨-, hpositional, hvalue⟩
      rw [Decimal.IsPositional, ← hvalue] at hpositional
      exact absurd hpositional hsize

/-- Digits around a point are written again as they are exactly if they have the form of a number
without an exponent and no shorter digits are read as the same number. -/
theorem render_nearest_iff (hwhole : IsDigits whole) (hfraction : IsDigits fraction) :
    (Decimal.ofDigits whole fraction).nearest.render = String.ofList (whole ++ '.' :: fraction) ↔
    IsPlain whole fraction ∧ ((Decimal.ofDigits whole fraction).digits = 0 ∨
      (Decimal.ofDigits whole fraction).IsPositional ∧
        (Decimal.ofDigits whole fraction).IsShortest) := by
  generalize hwritten : Decimal.ofDigits whole fraction = written
  have hzero : written.digits = 0 → written.nearest = .zero false :=
    fun hdigits => if_pos (.inl hdigits)
  rcases written.nearest_cases with hread | ⟨mantissa, exponent, hread⟩
  · -- the infinite number is a word without a point
    rw [hread] at hzero ⊢
    constructor
    · intro hword
      have hlist : "inf".toList = whole ++ '.' :: fraction :=
        (congrArg String.toList hword).trans String.toList_ofList
      have hpoint : '.' ∈ "inf".toList := by simp [hlist]
      exact absurd hpoint (by decide)
    · rintro ⟨-, hdigits | ⟨-, hshortest⟩⟩
      · cases hzero hdigits
      · obtain ⟨_, _, -, hfinite⟩ := hshortest.exists_finite
        cases hread.symm.trans hfinite
  · rw [hread] at hzero ⊢
    by_cases hne : mantissa = 0
    · rw [hne, Binary64.render_zero, show "0.0" = String.ofList (['0'] ++ '.' :: ['0']) from rfl,
        String.ofList_inj]
      constructor
      · intro hsame
        obtain ⟨rfl, rfl⟩ := eq_of_append_point isPlain_zeros.isDigits_whole hwhole hsame
        exact ⟨isPlain_zeros, .inl (by rw [← hwritten]; rfl)⟩
      · rintro ⟨hplain, hdigits | ⟨-, hshortest⟩⟩
        · rw [← hwritten, hplain.digits_eq_zero_iff] at hdigits
          rw [hdigits.1, hdigits.2]
        · obtain ⟨_, _, hmantissa, hfinite⟩ := hshortest.exists_finite
          exact absurd (hne ▸ (Binary64.finite.inj (hread.symm.trans hfinite)).2.1.symm) hmantissa
    · obtain ⟨hform, hmax⟩ := Decimal.isForm_of_nearest hread hne
      rw [Binary64.render_finite hne, String.ofList_inj, Shortest.isShortest_iff hne hread,
        or_iff_right (Decimal.digits_ne_zero_of_nearest hread hne), ← hwritten]
      exact layOut_eq_iff (Shortest.isTrimmed_decimal hform hmax) hwhole hfraction

/-- A decimal of few digits that is written without an exponent has a power near zero. -/
lemma Decimal.IsPositional.lt_power (hsize : decimal.IsPositional)
    (hfew : decimal.digits < 10 ^ 15) : -19 < decimal.power := by
  have hfew' : (decimal.digits : ℚ) < 10 ^ 15 := by exact_mod_cast hfew
  have hten : (0 : ℚ) < 10 ^ decimal.power := by positivity
  have hlt : (10 : ℚ) ^ (-4 : ℤ) < 10 ^ (15 + decimal.power) := by
    rw [zpow_add₀ (by norm_num)]
    refine hsize.1.trans_lt ?_
    rw [value]
    gcongr
    exact hfew'
  rw [zpow_lt_zpow_iff_right₀ (by norm_num)] at hlt
  omega

end BindingSync.Numeral
