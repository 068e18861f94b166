import BindingSync.Proofs.Numeral.Nearest

/-!
# The shortest digits of a number

The digits that a number is written with are the best ones that are read as it (`Decimal.IsBest`):
there are no fewer digits that are, of as many none are nearer to the number, and of two that are
equally near the even ones are taken.  A search through the grids of one digit, two digits and so on
comes to them (`Shortest.exists_isBest`), since on each grid the two neighbours of the number stand
for all decimals that are read as it, and seventeen digits always do.  There is only one best
decimal of a number (`Decimal.IsBest.eq`).
-/

namespace BindingSync.Numeral

open Binary64 (IsForm amount finite maxExponent ofDecimal quotient)

/-! ### The best decimal of a number -/

/-- The absolute value of a finite number. -/
def Binary64.absValue : Binary64 → ℚ
  | finite _ mantissa exponent => amount mantissa exponent
  | _ => 0

namespace Decimal

/-- How far a decimal is from the number that it is read as. -/
def gap (decimal : Decimal) : ℚ := |decimal.value - decimal.nearest.absValue|

/-- Of the decimals that are read as one number none with the same power of ten is better than this
one: none is nearer to the number, and if one is equally near, this one is even. -/
structure IsClosest (decimal : Decimal) : Prop where
  closest : ∀ other : Decimal, other.power = decimal.power → other.nearest = decimal.nearest →
    decimal.gap ≤ other.gap
  even : ∀ other : Decimal, other.power = decimal.power → other.nearest = decimal.nearest →
    other.gap = decimal.gap → other = decimal ∨ decimal.digits % 2 = 0

/-- The decimal is the closest one with its first digit in the place of that of the number, and no
decimal of fewer digits is read as the number.  The count is that of the digits behind the first
one. -/
structure IsBest (count : ℕ) (decimal : Decimal) : Prop extends IsClosest decimal where
  le_nearest : (10 : ℚ) ^ (decimal.power + count) ≤ decimal.nearest.absValue
  nearest_lt : decimal.nearest.absValue < 10 ^ (decimal.power + count + 1)
  fewest : ∀ other : Decimal, other.nearest = decimal.nearest → 10 ^ count ≤ other.digits

/-- The decimal has the value of the best one. -/
def IsShortest (decimal : Decimal) : Prop :=
  ∃ count best, IsBest count best ∧ best.value = decimal.value

end Decimal

/-! ### The neighbours of a number on a grid -/

namespace Shortest

variable {num den mantissa digits : ℕ} {exponent power : ℤ} {other found : Decimal}

/-- The number of digits in front of the point tells the size of a quotient. -/
lemma size_bounds (hden : den ≠ 0) (hle : den ≤ num) :
    10 ^ ((Nat.toDigits 10 (num / den)).length - 1) * den ≤ num ∧
      num < 10 ^ (Nat.toDigits 10 (num / den)).length * den := by
  have hpos := Nat.pos_of_ne_zero hden
  obtain ⟨hlow, hhigh⟩ := toDigits_bounds (Nat.div_pos hle hpos).ne'
  exact ⟨(Nat.le_div_iff_mul_le hpos).1 hlow, (Nat.div_lt_iff_lt_mul hpos).1 hhigh⟩

/-- The magnitude of a quotient tells its size. -/
lemma magnitude_spec (hnum : num ≠ 0) (hden : den ≠ 0) :
    (10 : ℚ) ^ magnitude num den ≤ num / den ∧ (num : ℚ) / den < 10 ^ (magnitude num den + 1) := by
  have hnumPos : (0 : ℚ) < num := by exact_mod_cast Nat.pos_of_ne_zero hnum
  have hdenPos : (0 : ℚ) < den := by exact_mod_cast Nat.pos_of_ne_zero hden
  unfold magnitude
  split
  · next hle =>
    obtain ⟨hlow, hhigh⟩ := size_bounds hden hle
    obtain ⟨count, hcount⟩ : ∃ count, (Nat.toDigits 10 (num / den)).length = count + 1 :=
      Nat.exists_eq_succ_of_ne_zero (by simp [Nat.toDigits_ne_nil])
    rw [hcount] at hlow hhigh ⊢
    rw [le_div_iff₀ hdenPos, div_lt_iff₀ hdenPos]
    push_cast
    rw [add_sub_cancel_right, zpow_natCast, ← Nat.cast_succ, zpow_natCast]
    exact_mod_cast And.intro hlow hhigh
  · next hlt =>
    obtain ⟨hlow, hhigh⟩ := size_bounds hnum (not_le.1 hlt).le
    obtain ⟨count, hcount⟩ : ∃ count, (Nat.toDigits 10 (den / num)).length = count + 1 :=
      Nat.exists_eq_succ_of_ne_zero (by simp [Nat.toDigits_ne_nil])
    rw [hcount, Nat.add_sub_cancel] at hlow
    rw [hcount] at hhigh
    dsimp only
    rw [hcount, Nat.add_sub_cancel]
    push_cast
    split
    · next hexact =>
      have hvalue : (num : ℚ) / den = 10 ^ (-(count : ℤ)) := by
        rw [← hexact, Nat.pow_eq, zpow_neg, zpow_natCast]
        push_cast
        field_simp
      rw [add_sub_cancel_right, hvalue]
      exact ⟨le_rfl, zpow_lt_zpow_right₀ (by norm_num) (by omega)⟩
    · next hinexact =>
      have hlow' : (10 : ℚ) ^ count * num < den := by
        exact_mod_cast lt_of_le_of_ne hlow fun h => hinexact (by rw [← h, Nat.pow_eq, mul_comm])
      have hhigh' : (den : ℚ) < 10 ^ (count + 1) * num := by exact_mod_cast hhigh
      have hpower : -((count : ℤ) + 1) + 1 = -count := by ring
      rw [hpower, ← Nat.cast_succ, Nat.succ_eq_add_one, zpow_neg, zpow_neg, zpow_natCast,
        zpow_natCast, inv_eq_one_div, inv_eq_one_div, div_le_div_iff₀ (by positivity) hdenPos,
        div_lt_div_iff₀ hdenPos (by positivity)]
      constructor <;> linarith

lemma quotient_eq (mantissa : ℕ) (exponent : ℤ) :
    ((quotient mantissa exponent).1 : ℚ) / (quotient mantissa exponent).2 =
      amount mantissa exponent := by
  rw [quotient, Binary64.scale_eq, Nat.cast_one, div_one, amount]

lemma quotient_den_ne_zero (mantissa : ℕ) (exponent : ℤ) : (quotient mantissa exponent).2 ≠ 0 :=
  (Binary64.scale_den_pos one_pos).ne'

/-- The power of ten of the first digit of a number. -/
def leading (mantissa : ℕ) (exponent : ℤ) : ℤ :=
  magnitude (quotient mantissa exponent).1 (quotient mantissa exponent).2

lemma leading_spec (hne : mantissa ≠ 0) (exponent : ℤ) :
    (10 : ℚ) ^ leading mantissa exponent ≤ amount mantissa exponent ∧
      amount mantissa exponent < 10 ^ (leading mantissa exponent + 1) := by
  have hnum : (quotient mantissa exponent).1 ≠ 0 := by
    intro hzero
    have hvalue := quotient_eq mantissa exponent
    rw [hzero, Nat.cast_zero, zero_div, amount, zero_eq_mul] at hvalue
    exact hvalue.elim (by exact_mod_cast hne) (by positivity)
  rw [← quotient_eq]
  exact magnitude_spec hnum (quotient_den_ne_zero mantissa exponent)

/-- The whole units of a power of ten that are below a number. -/
def units (mantissa : ℕ) (exponent power : ℤ) : ℕ :=
  (unitsBelow (quotient mantissa exponent).1 (quotient mantissa exponent).2 power).1

/-- A quotient in units of a power of ten. -/
lemma unitsBelow_eq (num den : ℕ) (hden : den ≠ 0) (power : ℤ) :
    ∃ n d : ℕ, d ≠ 0 ∧ (n : ℚ) / d = num / den / 10 ^ power ∧
      unitsBelow num den power = (n / d, compare (2 * (n % d)) d) := by
  rw [unitsBelow]
  split_ifs
  · obtain ⟨k, hk⟩ := Int.eq_ofNat_of_zero_le (show 0 ≤ -power by omega)
    obtain rfl : power = -k := by omega
    refine ⟨_, _, hden, ?_, rfl⟩
    simp [div_eq_mul_inv, mul_right_comm]
  · obtain ⟨k, rfl⟩ := Int.eq_ofNat_of_zero_le (show 0 ≤ power by omega)
    refine ⟨_, _, ?_, ?_, rfl⟩
    · simpa using hden
    · simp [div_div]

lemma units_spec (mantissa : ℕ) (exponent power : ℤ) :
    (units mantissa exponent power : ℚ) * 10 ^ power ≤ amount mantissa exponent ∧
      amount mantissa exponent < (units mantissa exponent power + 1) * 10 ^ power := by
  have hpower : (0 : ℚ) < 10 ^ power := by positivity
  obtain ⟨n, d, -, hvalue, heq⟩ := unitsBelow_eq (quotient mantissa exponent).1 _
    (quotient_den_ne_zero mantissa exponent) power
  rw [quotient_eq] at hvalue
  rw [units, heq, ← le_div_iff₀ hpower, ← div_lt_iff₀ hpower, ← hvalue,
    ← Nat.floor_div_eq_div (K := ℚ)]
  exact ⟨Nat.floor_le (by positivity), Nat.lt_floor_add_one _⟩

/-- The decimal of a grid that is not above a number. -/
def below (mantissa : ℕ) (exponent power : ℤ) : Decimal := ⟨units mantissa exponent power, power⟩

/-- The decimal of a grid that is just above a number. -/
def above (mantissa : ℕ) (exponent power : ℤ) : Decimal :=
  ⟨units mantissa exponent power + 1, power⟩

lemma below_le (mantissa : ℕ) (exponent power : ℤ) :
    (below mantissa exponent power).value ≤ amount mantissa exponent :=
  (units_spec mantissa exponent power).1

lemma lt_above (mantissa : ℕ) (exponent power : ℤ) :
    amount mantissa exponent < (above mantissa exponent power).value := by
  have h := (units_spec mantissa exponent power).2
  rw [Decimal.value, above]
  push_cast
  exact h

/-- The rest of a number above its lower neighbour tells which neighbour is nearer. -/
lemma rest_eq (mantissa : ℕ) (exponent power : ℤ) :
    (unitsBelow (quotient mantissa exponent).1 (quotient mantissa exponent).2 power).2 =
      compare (amount mantissa exponent - (below mantissa exponent power).value)
        ((above mantissa exponent power).value - amount mantissa exponent) := by
  have hpower : (0 : ℚ) < 10 ^ power := by positivity
  obtain ⟨n, d, hd, hvalue, heq⟩ := unitsBelow_eq (quotient mantissa exponent).1 _
    (quotient_den_ne_zero mantissa exponent) power
  rw [quotient_eq, eq_comm, div_eq_iff hpower.ne'] at hvalue
  have hdpos : (0 : ℚ) < d := by exact_mod_cast Nat.pos_of_ne_zero hd
  have hunit : (0 : ℚ) < 10 ^ power / d := by positivity
  have hdivision : (d : ℚ) * (n / d : ℕ) + (n % d : ℕ) = n := by
    exact_mod_cast Nat.div_add_mod n d
  rw [Decimal.value, Decimal.value, below, above, units, heq, hvalue]
  dsimp only
  generalize n / d = floor at *
  generalize n % d = rest at *
  have hbelow : (n : ℚ) / d * 10 ^ power - floor * 10 ^ power = rest * (10 ^ power / d) := by
    rw [← hdivision]
    field_simp
    ring
  have habove : ((floor + 1 : ℕ) : ℚ) * 10 ^ power - n / d * 10 ^ power =
      (d - rest) * (10 ^ power / d) := by
    rw [← hdivision]
    push_cast
    field_simp
    ring
  rw [hbelow, habove]
  rcases lt_trichotomy (2 * rest) d with hlt | heq | hlt
  · have hlt' : (2 : ℚ) * rest < d := by exact_mod_cast hlt
    rw [compare_lt_iff_lt.2 hlt, eq_comm, compare_lt_iff_lt]
    gcongr
    linarith
  · have heq' : (2 : ℚ) * rest = d := by exact_mod_cast heq
    rw [compare_eq_iff_eq.2 heq, eq_comm, compare_eq_iff_eq]
    congr 1
    linarith
  · have hlt' : (d : ℚ) < 2 * rest := by exact_mod_cast hlt
    rw [compare_gt_iff_gt.2 hlt, eq_comm, compare_gt_iff_gt]
    refine mul_lt_mul_of_pos_right ?_ hunit
    linarith

/-- A decimal with a power of ten that is not smaller is not between the neighbours. -/
lemma not_between (mantissa : ℕ) (exponent : ℤ) (h : power ≤ other.power) :
    other.value ≤ (below mantissa exponent power).value ∨
      (above mantissa exponent power).value ≤ other.value := by
  have hpower : (0 : ℚ) < 10 ^ power := by positivity
  obtain ⟨k, hk⟩ := Int.eq_ofNat_of_zero_le (show 0 ≤ other.power - power by omega)
  have hvalue : other.value = (other.digits * 10 ^ k : ℕ) * 10 ^ power := by
    rw [Decimal.value, show other.power = k + power by omega, zpow_add₀ (by norm_num),
      zpow_natCast]
    push_cast
    ring
  rw [hvalue, Decimal.value, Decimal.value, below, above]
  dsimp only
  rcases le_or_gt (other.digits * 10 ^ k) (units mantissa exponent power) with hle | hlt
  · left
    gcongr
  · right
    gcongr
    exact hlt

/-- A decimal of no more digits than the grid gives a number is not between the neighbours. -/
lemma not_between_of_few {count : ℕ}
    (hleading : (10 : ℚ) ^ (power + count) ≤ amount mantissa exponent)
    (hfew : other.digits < 10 ^ (count + 1)) :
    other.value ≤ (below mantissa exponent power).value ∨
      (above mantissa exponent power).value ≤ other.value := by
  rcases le_or_gt power other.power with hle | hlt
  · exact not_between mantissa exponent hle
  · left
    have hfew' : (other.digits : ℚ) < 10 ^ (count + 1) := by exact_mod_cast hfew
    have hfirst : other.value < (Decimal.mk (10 ^ count) power).value :=
      calc other.value < 10 ^ (count + 1) * 10 ^ other.power := by
            rw [Decimal.value]
            gcongr
        _ ≤ 10 ^ (count + 1) * 10 ^ (power - 1) := by
            gcongr
            · norm_num
            · omega
        _ = (Decimal.mk (10 ^ count) power).value := by
            rw [Decimal.value, zpow_sub_one₀ (by norm_num)]
            push_cast
            ring
    have hle : (Decimal.mk (10 ^ count) power).value ≤ amount mantissa exponent := by
      refine le_trans (le_of_eq ?_) hleading
      rw [Decimal.value, zpow_add₀ (by norm_num), zpow_natCast, mul_comm]
      push_cast
      rfl
    rcases not_between mantissa exponent (le_refl (Decimal.mk (10 ^ count) power).power) with
      hbelow | habove
    · exact hfirst.le.trans hbelow
    · exact absurd ((lt_above mantissa exponent power).trans_le habove) (not_lt.2 hle)

/-! ### The choice on a grid -/

lemma gap_eq {negative : Bool} (h : found.nearest = finite negative mantissa exponent) :
    found.gap = |found.value - amount mantissa exponent| := by
  rw [Decimal.gap, h]
  rfl

lemma gap_below (h : (below mantissa exponent power).nearest = finite false mantissa exponent) :
    (below mantissa exponent power).gap =
      amount mantissa exponent - (below mantissa exponent power).value := by
  rw [gap_eq h, abs_sub_comm, abs_of_nonneg (sub_nonneg.2 (below_le _ _ _))]

lemma gap_above (h : (above mantissa exponent power).nearest = finite false mantissa exponent) :
    (above mantissa exponent power).gap =
      (above mantissa exponent power).value - amount mantissa exponent := by
  rw [gap_eq h, abs_of_pos (sub_pos.2 (lt_above _ _ _))]

/-- One of the neighbours of the number is read as it, and the other one is not better. -/
structure IsChoice (mantissa : ℕ) (exponent power : ℤ) (found : Decimal) : Prop where
  isNeighbour : found = below mantissa exponent power ∨ found = above mantissa exponent power
  reads : found.nearest = finite false mantissa exponent
  closest : ∀ other,
    (other = below mantissa exponent power ∨ other = above mantissa exponent power) →
      other.nearest = finite false mantissa exponent → found.gap ≤ other.gap
  even : ∀ other,
    (other = below mantissa exponent power ∨ other = above mantissa exponent power) →
      other.nearest = finite false mantissa exponent → other.gap = found.gap →
        other = found ∨ found.digits % 2 = 0

/-- Where both neighbours are read as the number, the nearer one is the choice, or the even one. -/
lemma isChoice_of_le {first second : Decimal}
    (hneighbours : first = below mantissa exponent power ∧ second = above mantissa exponent power ∨
      first = above mantissa exponent power ∧ second = below mantissa exponent power)
    (hreads : first.nearest = finite false mantissa exponent)
    (hle : second.nearest = finite false mantissa exponent → first.gap ≤ second.gap)
    (heven : second.nearest = finite false mantissa exponent → second.gap = first.gap →
      first.digits % 2 = 0) : IsChoice mantissa exponent power first := by
  have hother : ∀ other, (other = below mantissa exponent power ∨
      other = above mantissa exponent power) → other = first ∨ other = second := by
    rcases hneighbours with ⟨rfl, rfl⟩ | ⟨rfl, rfl⟩
    · exact fun _ => id
    · exact fun _ => Or.symm
  refine ⟨hneighbours.imp And.left And.left, hreads, fun other hmem hread => ?_,
    fun other hmem hread hgap => ?_⟩
  · rcases hother other hmem with rfl | rfl
    · exact le_rfl
    · exact hle hread
  · rcases hother other hmem with rfl | rfl
    · exact .inl rfl
    · exact .inr (heven hread hgap)

/-- On a grid the choice between the neighbours is found, if one of them is read as the number. -/
lemma onGrid?_spec (mantissa : ℕ) (exponent power : ℤ) :
    (∃ found, onGrid? mantissa exponent power = some found ∧
      IsChoice mantissa exponent power found) ∨
    onGrid? mantissa exponent power = none ∧
      (below mantissa exponent power).nearest ≠ finite false mantissa exponent ∧
      (above mantissa exponent power).nearest ≠ finite false mantissa exponent := by
  have hunits : unitsBelow (quotient mantissa exponent).1 (quotient mantissa exponent).2 power =
      (units mantissa exponent power,
        compare (amount mantissa exponent - (below mantissa exponent power).value)
          ((above mantissa exponent power).value - amount mantissa exponent)) :=
    Prod.ext rfl (rest_eq mantissa exponent power)
  unfold onGrid?
  dsimp only
  rw [hunits]
  dsimp only
  cases hbelow : decide (ofDecimal false (units mantissa exponent power) power =
      finite false mantissa exponent) with
  | false =>
    have hbelow' : (below mantissa exponent power).nearest ≠ _ := of_decide_eq_false hbelow
    cases habove : decide (ofDecimal false (units mantissa exponent power + 1) power =
        finite false mantissa exponent) with
    | false => exact .inr ⟨rfl, hbelow', of_decide_eq_false habove⟩
    | true =>
      exact .inl ⟨_, rfl, isChoice_of_le (.inr ⟨rfl, rfl⟩) (of_decide_eq_true habove)
        (fun h => absurd h hbelow') fun h => absurd h hbelow'⟩
  | true =>
    have hbelow' : (below mantissa exponent power).nearest = _ := of_decide_eq_true hbelow
    cases habove : decide (ofDecimal false (units mantissa exponent power + 1) power =
        finite false mantissa exponent) with
    | false =>
      have habove' : (above mantissa exponent power).nearest ≠ _ := of_decide_eq_false habove
      exact .inl ⟨_, rfl, isChoice_of_le (.inl ⟨rfl, rfl⟩) hbelow'
        (fun h => absurd h habove') fun h => absurd h habove'⟩
    | true =>
      have habove' : (above mantissa exponent power).nearest = _ := of_decide_eq_true habove
      refine .inl ⟨_, rfl, ?_⟩
      rw [← gap_below hbelow', ← gap_above habove']
      rcases lt_trichotomy (below mantissa exponent power).gap (above mantissa exponent power).gap
        with hlt | heq | hlt
      · rw [compare_lt_iff_lt.2 hlt]
        exact isChoice_of_le (.inl ⟨rfl, rfl⟩) hbelow' (fun _ => hlt.le)
          fun _ hgap => absurd hgap hlt.ne'
      · rw [compare_eq_iff_eq.2 heq]
        dsimp only
        split_ifs with heven
        · exact isChoice_of_le (.inl ⟨rfl, rfl⟩) hbelow' (fun _ => heq.le) fun _ _ => heven
        · refine isChoice_of_le (.inr ⟨rfl, rfl⟩) habove' (fun _ => heq.ge) fun _ _ => ?_
          dsimp only
          omega
      · rw [compare_gt_iff_gt.2 hlt]
        exact isChoice_of_le (.inr ⟨rfl, rfl⟩) habove' (fun _ => hlt.le)
          fun _ hgap => absurd hgap hlt.ne'

/-- A decimal that is not between the neighbours of the number that it is read as is not better than
one of them. -/
lemma exists_neighbour (hne : mantissa ≠ 0) (hread : other.nearest = finite false mantissa exponent)
    (hout : other.value ≤ (below mantissa exponent power).value ∨
      (above mantissa exponent power).value ≤ other.value) :
    ∃ neighbour, (neighbour = below mantissa exponent power ∨
      neighbour = above mantissa exponent power) ∧
      neighbour.nearest = finite false mantissa exponent ∧ neighbour.gap ≤ other.gap ∧
      (other.gap = neighbour.gap → other.value = neighbour.value) := by
  have hbelow := below_le mantissa exponent power
  have habove := lt_above mantissa exponent power
  rcases hout with hout | hout
  · have hreadBelow : (below mantissa exponent power).nearest = _ :=
      Decimal.nearest_of_between hread hne (min_le_of_left_le hout) (le_max_of_le_right hbelow)
    refine ⟨_, .inl rfl, hreadBelow, ?_⟩
    rw [gap_below hreadBelow, gap_eq hread, abs_sub_comm,
      abs_of_nonneg (sub_nonneg.2 (hout.trans hbelow))]
    exact ⟨by linarith, fun h => by linarith⟩
  · have hreadAbove : (above mantissa exponent power).nearest = _ :=
      Decimal.nearest_of_between hread hne (min_le_of_right_le habove.le) (le_max_of_le_left hout)
    refine ⟨_, .inr rfl, hreadAbove, ?_⟩
    rw [gap_above hreadAbove, gap_eq hread, abs_of_pos (sub_pos.2 (habove.trans_le hout))]
    exact ⟨by linarith, fun h => by linarith⟩

lemma IsChoice.power_eq (h : IsChoice mantissa exponent power found) : found.power = power := by
  rcases h.isNeighbour with rfl | rfl <;> rfl

/-- The choice between the neighbours is the closest decimal of its grid. -/
lemma IsChoice.isClosest (hne : mantissa ≠ 0) (h : IsChoice mantissa exponent power found) :
    found.IsClosest where
  closest other hpower hread := by
    rw [h.reads] at hread
    rw [h.power_eq] at hpower
    obtain ⟨neighbour, hmem, hneighbour, hgap, -⟩ := exists_neighbour hne hread
      (not_between mantissa exponent hpower.ge)
    exact (h.closest neighbour hmem hneighbour).trans hgap
  even other hpower hread hgap := by
    rw [h.reads] at hread
    rw [h.power_eq] at hpower
    obtain ⟨neighbour, hmem, hneighbour, hle, hvalue⟩ := exists_neighbour hne hread
      (not_between mantissa exponent hpower.ge)
    have hsame : other.gap = neighbour.gap :=
      le_antisymm (hgap.le.trans (h.closest neighbour hmem hneighbour)) hle
    have hpower' : other.power = neighbour.power := by
      rw [hpower]
      rcases hmem with rfl | rfl <;> rfl
    obtain rfl := Decimal.eq_of_value_eq hpower' (hvalue hsame)
    exact h.even other hmem hneighbour hgap

/-! ### The search through the grids -/

/-- The search ends at the first grid on which something is found. -/
lemma search_spec (mantissa : ℕ) (exponent first : ℤ) (bound count : ℕ) {end_ : ℕ}
    (hle : count ≤ end_) (hlt : end_ < count + bound)
    (hend : onGrid? mantissa exponent (first - end_ + 1) ≠ none) :
    ∃ place, count ≤ place ∧ place ≤ end_ ∧ onGrid? mantissa exponent (first - place + 1) =
        some (search mantissa exponent first bound count) ∧
      ∀ earlier, count ≤ earlier → earlier < place →
        onGrid? mantissa exponent (first - earlier + 1) = none := by
  induction bound generalizing count with
  | zero => omega
  | succ bound ih =>
    rw [search]
    cases hfound : onGrid? mantissa exponent (first - count + 1) with
    | some found => exact ⟨count, le_rfl, hle, hfound, fun _ hge hlt => absurd hge (not_le.2 hlt)⟩
    | none =>
      have hne : count ≠ end_ := by
        rintro rfl
        exact hend hfound
      obtain ⟨place, hplace, hend, hsearch, hearlier⟩ := ih (count + 1) (by omega) (by omega)
      refine ⟨place, by omega, hend, hsearch, fun earlier hge hlt => ?_⟩
      rcases hge.eq_or_lt with rfl | hgt
      · exact hfound
      · exact hearlier earlier hgt hlt

/-- On the grid of seventeen digits one of the neighbours is read as the number. -/
lemma onGrid?_seventeen (hform : IsForm mantissa exponent) (hmax : exponent ≤ maxExponent) :
    onGrid? mantissa exponent (leading mantissa exponent - (17 : ℕ) + 1) ≠ none := by
  set power := leading mantissa exponent - (17 : ℕ) + 1 with hpower
  have hunit : (0 : ℚ) < 10 ^ power := by positivity
  have hsmall : (10 : ℚ) ^ power ≤ amount mantissa exponent / 10 ^ 16 := by
    rw [le_div_iff₀ (by norm_num), ← zpow_natCast, ← zpow_add₀ (by norm_num),
      show power + (16 : ℕ) = leading mantissa exponent by rw [hpower]; push_cast; ring]
    exact (leading_spec hform.ne_zero exponent).1
  have hclose : ∀ neighbour : Decimal,
      |neighbour.value - amount mantissa exponent| ≤ 10 ^ power / 2 →
        neighbour.nearest = finite false mantissa exponent := by
    intro neighbour hle
    refine (Binary64.ofDecimal_eq_iff hform hmax).2 (hform.rounded_of_close ?_)
    refine hle.trans ?_
    rw [mul_comm, ← div_div]
    gcongr
  have hbelow := below_le mantissa exponent power
  have habove := lt_above mantissa exponent power
  have hstep : (above mantissa exponent power).value =
      (below mantissa exponent power).value + 10 ^ power := by
    rw [Decimal.value, Decimal.value, above, below]
    push_cast
    ring
  intro hnone
  obtain ⟨found, hfound, -⟩ | ⟨-, hnotBelow, hnotAbove⟩ := onGrid?_spec mantissa exponent power
  · cases hnone.symm.trans hfound
  · rcases le_total (amount mantissa exponent - (below mantissa exponent power).value)
      (10 ^ power / 2) with hle | hle
    · refine hnotBelow (hclose _ ?_)
      rwa [abs_sub_comm, abs_of_nonneg (sub_nonneg.2 hbelow)]
    · refine hnotAbove (hclose _ ?_)
      rw [abs_of_pos (sub_pos.2 habove)]
      linarith

/-- If a decimal is read as a number, something is found on the grid of as many digits. -/
lemma onGrid?_of_few {count : ℕ} (hne : mantissa ≠ 0)
    (hread : other.nearest = finite false mantissa exponent)
    (hfew : other.digits < 10 ^ (count + 1)) :
    onGrid? mantissa exponent (leading mantissa exponent - (count + 1 : ℕ) + 1) ≠ none := by
  intro hnone
  have hleading : (10 : ℚ) ^ (leading mantissa exponent - (count + 1 : ℕ) + 1 + count) ≤
      amount mantissa exponent := by
    convert (leading_spec hne exponent).1 using 2
    push_cast
    ring
  obtain ⟨neighbour, hmem, hneighbour, -⟩ :=
    exists_neighbour hne hread (not_between_of_few hleading hfew)
  obtain ⟨found, hfound, -⟩ | ⟨-, hbelow, habove⟩ := onGrid?_spec mantissa exponent
    (leading mantissa exponent - (count + 1 : ℕ) + 1)
  · cases hnone.symm.trans hfound
  · rcases hmem with rfl | rfl
    · exact hbelow hneighbour
    · exact habove hneighbour

/-- What the search for the digits of a number comes to. -/
def searched (mantissa : ℕ) (exponent : ℤ) : Decimal :=
  search mantissa exponent (leading mantissa exponent) 17 1

lemma decimal_eq (mantissa : ℕ) (exponent : ℤ) :
    decimal mantissa exponent = (searched mantissa exponent).trim 17 :=
  rfl

/-- The search comes to the best decimal of a number. -/
theorem exists_isBest (hform : IsForm mantissa exponent) (hmax : exponent ≤ maxExponent) :
    (searched mantissa exponent).nearest = finite false mantissa exponent ∧
      ∃ count < 17, Decimal.IsBest count (searched mantissa exponent) := by
  have hne := hform.ne_zero
  obtain ⟨place, hplace, hend, hfound, hearlier⟩ :=
    search_spec mantissa exponent (leading mantissa exponent) 17 1 (by decide) (by decide)
      (onGrid?_seventeen hform hmax)
  obtain ⟨best, hsome, hchoice⟩ | ⟨hnone, -⟩ :=
    onGrid?_spec mantissa exponent (leading mantissa exponent - place + 1)
  swap
  · cases hnone.symm.trans hfound
  obtain rfl : searched mantissa exponent = best := Option.some_inj.1 (hfound.symm.trans hsome)
  obtain ⟨count, rfl⟩ : ∃ count, place = count + 1 := ⟨place - 1, by omega⟩
  have hleading : (searched mantissa exponent).power + count = leading mantissa exponent := by
    rw [hchoice.power_eq]
    push_cast
    ring
  obtain ⟨hlow, hhigh⟩ := leading_spec hne exponent
  refine ⟨hchoice.reads, count, by omega, hchoice.isClosest hne, ?_, ?_, fun other hread => ?_⟩
  · rw [hchoice.reads, hleading]
    exact hlow
  · rw [hchoice.reads, hleading]
    exact hhigh
  · rw [hchoice.reads] at hread
    by_contra! hfew
    cases count with
    | zero => exact Decimal.digits_ne_zero_of_nearest hread hne (Nat.lt_one_iff.1 hfew)
    | succ count => exact onGrid?_of_few hne hread hfew (hearlier (count + 1) (by omega) (by omega))

end Shortest

/-! ### The best decimal is the only one -/

namespace Decimal.IsBest

open Shortest

variable {decimal other : Decimal} {count count' mantissa : ℕ} {exponent : ℤ}

/-- A best decimal is read as a positive number. -/
lemma exists_finite (h : IsBest count decimal) :
    ∃ mantissa exponent, mantissa ≠ 0 ∧ decimal.nearest = finite false mantissa exponent := by
  have hpos : 0 < decimal.nearest.absValue :=
    lt_of_lt_of_le (by positivity) h.le_nearest
  rcases decimal.nearest_cases with hread | ⟨mantissa, exponent, hread⟩
  · rw [hread] at hpos
    exact absurd hpos (lt_irrefl 0)
  · refine ⟨mantissa, exponent, ?_, hread⟩
    rintro rfl
    rw [hread, Binary64.absValue, amount, Nat.cast_zero, zero_mul] at hpos
    exact lt_irrefl 0 hpos

section Read

variable (hne : mantissa ≠ 0) (hread : decimal.nearest = finite false mantissa exponent)
include hne hread

/-- A best decimal is a neighbour of the number. -/
lemma eq_neighbour (h : IsBest count decimal) :
    decimal = below mantissa exponent decimal.power ∨
      decimal = above mantissa exponent decimal.power := by
  obtain ⟨neighbour, hmem, hneighbour, hle, hvalue⟩ :=
    exists_neighbour hne hread (not_between mantissa exponent (le_refl decimal.power))
  have hpower : neighbour.power = decimal.power := by rcases hmem with rfl | rfl <;> rfl
  have hge : decimal.gap ≤ neighbour.gap :=
    h.closest neighbour hpower (hneighbour.trans hread.symm)
  obtain rfl := eq_of_value_eq hpower.symm (hvalue (le_antisymm hge hle))
  exact hmem

/-- It has as many digits as the number has places down to its last one, or it is the power of ten
above the number. -/
lemma digits_le (h : IsBest count decimal) : decimal.digits ≤ 10 ^ (count + 1) := by
  have hunits : units mantissa exponent decimal.power < 10 ^ (count + 1) := by
    have hpower : (0 : ℚ) < 10 ^ decimal.power := by positivity
    have hsize := h.nearest_lt
    rw [hread, Binary64.absValue] at hsize
    have hlt := (units_spec mantissa exponent decimal.power).1.trans_lt hsize
    rw [add_assoc, zpow_add₀ (by norm_num), mul_comm, mul_lt_mul_iff_right₀ hpower] at hlt
    exact_mod_cast hlt
  rcases h.eq_neighbour hne hread with heq | heq
  · rw [heq]
    exact hunits.le
  · rw [heq]
    exact hunits

end Read

variable (h : IsBest count decimal) (h' : IsBest count' other)
  (hsame : other.nearest = decimal.nearest)
include h h' hsame

/-- No best decimal of a number has more digits than another one. -/
lemma count_le : count ≤ count' := by
  obtain ⟨mantissa, exponent, hne, hread⟩ := h'.exists_finite
  rcases (h'.digits_le hne hread).lt_or_eq with hlt | heq
  · have hpowers := (h.fewest other hsame).trans_lt hlt
    rw [Nat.pow_lt_pow_iff_right (by decide)] at hpowers
    omega
  · -- a power of ten may be written with one digit
    have hvalue : (Decimal.mk 1 (other.power + (count' + 1 : ℕ))).value = other.value := by
      rw [value, value, heq, zpow_add₀ (by norm_num), zpow_natCast]
      push_cast
      ring
    have hone := h.fewest _ ((nearest_of_value_eq hread hne hvalue).trans (hread.symm.trans hsame))
    have hpowers : 10 ^ count < 10 ^ 1 := lt_of_le_of_lt hone (show 1 < 10 ^ 1 by norm_num)
    rw [Nat.pow_lt_pow_iff_right (by decide)] at hpowers
    omega

/-- There is only one best decimal of a number. -/
theorem eq : other = decimal := by
  obtain ⟨mantissa, exponent, hne, hread⟩ := h.exists_finite
  have hcount : count = count' :=
    le_antisymm (h.count_le h' hsame) (h'.count_le h hsame.symm)
  subst hcount
  have hpower : other.power = decimal.power := by
    have hlow := h.le_nearest.trans_lt (hsame ▸ h'.nearest_lt)
    have hhigh := (hsame ▸ h'.le_nearest).trans_lt h.nearest_lt
    rw [zpow_lt_zpow_iff_right₀ (by norm_num)] at hlow hhigh
    omega
  have hgap : other.gap = decimal.gap :=
    le_antisymm (h'.closest decimal hpower.symm hsame.symm) (h.closest other hpower hsame)
  rcases h.even other hpower hsame hgap with heq | heven
  · exact heq
  rcases h'.even decimal hpower.symm hsame.symm hgap.symm with heq | heven'
  · exact heq.symm
  -- both are even, but the neighbours of the number are not
  have hmem := h.eq_neighbour hne hread
  have hmem' := h'.eq_neighbour hne (hsame.trans hread)
  rw [hpower] at hmem'
  rcases hmem with heq | heq <;> rcases hmem' with heq' | heq'
  · rw [heq, heq']
  · rw [heq, below] at heven
    rw [heq', above] at heven'
    dsimp only at heven heven'
    omega
  · rw [heq, above] at heven
    rw [heq', below] at heven'
    dsimp only at heven heven'
    omega
  · rw [heq, heq']

end Decimal.IsBest

lemma Decimal.IsShortest.of_value_eq {decimal written : Decimal} (h : decimal.IsShortest)
    (hvalue : written.value = decimal.value) : written.IsShortest := by
  obtain ⟨count, best, hbest, hsame⟩ := h
  exact ⟨count, best, hbest, hsame.trans hvalue.symm⟩

/-- A decimal of shortest digits is read as a positive number. -/
lemma Decimal.IsShortest.exists_finite {decimal : Decimal} (h : decimal.IsShortest) :
    ∃ mantissa exponent, mantissa ≠ 0 ∧ decimal.nearest = finite false mantissa exponent := by
  obtain ⟨count, best, hbest, hvalue⟩ := h
  obtain ⟨mantissa, exponent, hne, hread⟩ := hbest.exists_finite
  exact ⟨mantissa, exponent, hne, nearest_of_value_eq hread hne hvalue.symm⟩

namespace Shortest

variable {mantissa : ℕ} {exponent : ℤ} {written : Decimal}

/-- A decimal is the shortest one of the number that it is read as exactly if it has the value that
the number is written with. -/
theorem isShortest_iff (hne : mantissa ≠ 0)
    (hread : written.nearest = finite false mantissa exponent) :
    written.IsShortest ↔ (decimal mantissa exponent).value = written.value := by
  obtain ⟨hform, hmax⟩ := Decimal.isForm_of_nearest hread hne
  obtain ⟨hsearched, count, -, hbest⟩ := exists_isBest hform hmax
  rw [decimal_eq, Decimal.value_trim]
  constructor
  · rintro ⟨count', best, hbest', hvalue⟩
    have hsame : best.nearest = (searched mantissa exponent).nearest :=
      (Decimal.nearest_of_value_eq hread hne hvalue).trans hsearched.symm
    rw [← hbest.eq hbest' hsame, hvalue]
  · exact fun hvalue => ⟨count, _, hbest, hvalue⟩

/-- The digits that a number is written with do not end with a zero. -/
theorem isTrimmed_decimal (hform : IsForm mantissa exponent) (hmax : exponent ≤ maxExponent) :
    (decimal mantissa exponent).IsTrimmed := by
  obtain ⟨hsearched, count, hlt, hbest⟩ := exists_isBest hform hmax
  refine Decimal.isTrimmed_trim (Decimal.digits_ne_zero_of_nearest hsearched hform.ne_zero) ?_
  calc (searched mantissa exponent).digits ≤ 10 ^ (count + 1) :=
        hbest.digits_le hform.ne_zero hsearched
    _ < 10 ^ (17 + 1) := Nat.pow_lt_pow_right (by decide) (by omega)

end Shortest

end BindingSync.Numeral
