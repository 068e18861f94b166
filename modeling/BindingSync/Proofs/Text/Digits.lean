import Mathlib.Algebra.Group.Int.Defs
import Mathlib.Algebra.Group.Nat.Defs
import Mathlib.Tactic.Common
import BindingSync.Text.Digits

/-!
# Reading written numbers

The digits of a number, read in the same base, give the number back.  The last digit of a number
that has several is the one that is read last, so the proof follows the number from its last
digit to the first.  The other way round, decimal digits are those of the number that they write
unless there is a zero in front (`toDigits_decimalNumber`).
-/

namespace BindingSync.Text

/-- Digits are read from left to right. -/
lemma numberFrom_append (base : Nat) (digit? : Char → Option Nat) (value : Nat)
    (first second : List Char) :
    numberFrom base digit? value (first ++ second) =
      (numberFrom base digit? value first).bind fun n => numberFrom base digit? n second := by
  induction first generalizing value with
  | nil => rfl
  | cons c rest ih =>
    rw [List.cons_append, numberFrom, numberFrom]
    cases digit? c with
    | none => rfl
    | some d => exact ih _

/-- If every digit reads as its value, the digits of a number read as the number. -/
lemma numberFrom_toDigits {base : Nat} (hbase : 1 < base) {digit? : Char → Option Nat}
    (hdigit : ∀ d, d < base → digit? (Nat.digitChar d) = some d) (n : Nat) :
    numberFrom base digit? 0 (Nat.toDigits base n) = some n := by
  induction n using Nat.strongRecOn with
  | ind n ih =>
    by_cases hlt : n < base
    · rw [Nat.toDigits_of_lt_base hlt, numberFrom, hdigit n hlt]
      simp [numberFrom]
    · have hle : base ≤ n := Nat.le_of_not_lt hlt
      have hdiv : n / base < n := Nat.div_lt_self (by omega) hbase
      rw [Nat.toDigits_of_base_le hbase hle, numberFrom_append, ih _ hdiv, Option.bind_some,
        numberFrom, hdigit _ (Nat.mod_lt n (by omega))]
      rw [Option.bind_some, numberFrom, Nat.div_add_mod']

/-- A hexadecimal digit is written in the lower case and reads as its value. -/
lemma hexDigit?_digitChar : ∀ d, d < 16 → hexDigit? (Nat.digitChar d) = some d := by
  decide

/-- The hexadecimal digits of a number read as the number. -/
theorem hexNumber?_toDigits (n : Nat) : hexNumber? (Nat.toDigits 16 n) = some n := by
  have hread := numberFrom_toDigits (by decide) hexDigit?_digitChar n
  cases hdigits : Nat.toDigits 16 n with
  | nil => exact absurd hdigits Nat.toDigits_ne_nil
  | cons c rest => rwa [hdigits] at hread

/-- A digit of a number is one of the digits of the base. -/
lemma exists_of_mem_toDigits {base n : Nat} (hbase : 1 < base) {c : Char}
    (h : c ∈ Nat.toDigits base n) : ∃ d, d < base ∧ c = Nat.digitChar d := by
  induction n using Nat.strongRecOn with
  | ind n ih =>
    by_cases hlt : n < base
    · rw [Nat.toDigits_of_lt_base hlt, List.mem_singleton] at h
      exact ⟨n, hlt, h⟩
    · have hle : base ≤ n := Nat.le_of_not_lt hlt
      rw [Nat.toDigits_of_base_le hbase hle] at h
      rcases List.mem_append.1 h with h | h
      · exact ih _ (Nat.div_lt_self (by omega) hbase) h
      · exact ⟨n % base, Nat.mod_lt n (by omega), List.mem_singleton.1 h⟩

/-- The hexadecimal form of a number is a zero, an `x` and its digits. -/
lemma hexOfInt_eq {n : Int} (h : 0 ≤ n) :
    hexOfInt n = String.ofList ('0' :: 'x' :: Nat.toDigits 16 n.toNat) := by
  rw [← String.toList_inj, hexOfInt, if_neg (by omega)]
  have habs : n.natAbs = n.toNat := by omega
  simp [habs]

/-! ### Padded hexadecimal digits -/

/-- Padding makes up the width, unless there are more digits. -/
lemma length_hexPadded {width n : Nat} (hwidth : 0 < width) (h : n < 16 ^ width) :
    (hexPadded width n).length = width := by
  have hle := (Nat.length_toDigits_le_iff (b := 16) (by decide) hwidth).2 h
  simp only [hexPadded, List.length_append, List.length_replicate]
  omega

/-- Zeros in front do not change the number. -/
lemma numberFrom_zeros (count : Nat) (digits : List Char) :
    numberFrom 16 hexDigit? 0 (List.replicate count '0' ++ digits) =
      numberFrom 16 hexDigit? 0 digits := by
  induction count with
  | zero => rfl
  | succ count ih =>
    have hzero : hexDigit? '0' = some 0 := by decide
    rw [List.replicate_succ, List.cons_append, numberFrom, hzero]
    exact ih

/-- Padded digits read as the number. -/
theorem hexNumber?_hexPadded {width n : Nat} (h : hexPadded width n ≠ []) :
    hexNumber? (hexPadded width n) = some n := by
  have hread := numberFrom_toDigits (by decide) hexDigit?_digitChar n
  rw [← numberFrom_zeros (width - (Nat.toDigits 16 n).length)] at hread
  cases hdigits : hexPadded width n with
  | nil => exact absurd hdigits h
  | cons c rest =>
    rw [hexNumber?, ← hdigits]
    · exact hread
    · simp

/-! ### Decimal digits -/

/-- The decimal digits of a number read as the number. -/
theorem decimalNumber_toDigits (n : Nat) : decimalNumber (Nat.toDigits 10 n) = n := by
  have hread := Nat.ofDigitChars_ten_toDigits (n := n)
  rw [Nat.ofDigitChars_eq_foldl] at hread
  simpa only [decimalNumber, Nat.mul_comm] using hread

/-- Digits write a number that is below the power of ten with as many zeros. -/
lemma decimalNumber_lt {digits : List Char} (h : ∀ c ∈ digits, c.isDigit = true) :
    decimalNumber digits < 10 ^ digits.length := by
  suffices hfrom : ∀ value, digits.foldl (fun n c => n * 10 + (c.toNat - '0'.toNat)) value <
      (value + 1) * 10 ^ digits.length by
    simpa [decimalNumber] using hfrom 0
  induction digits with
  | nil => simp
  | cons c rest ih =>
    intro value
    obtain ⟨hc, hrest⟩ := List.forall_mem_cons.1 h
    have hdigit : c.toNat - '0'.toNat + 1 ≤ 10 := by
      have hnine : '9'.toNat - '0'.toNat + 1 = 10 := by decide
      have hle := (Char.isDigit_iff_toNat.1 hc).2
      omega
    have hstep : value * 10 + (c.toNat - '0'.toNat) + 1 ≤ (value + 1) * 10 := by omega
    rw [List.foldl_cons, List.length_cons, Nat.pow_succ']
    calc _ < (value * 10 + (c.toNat - '0'.toNat) + 1) * 10 ^ rest.length := ih hrest _
      _ ≤ (value + 1) * 10 * 10 ^ rest.length := Nat.mul_le_mul_right _ hstep
      _ = (value + 1) * (10 * 10 ^ rest.length) := Nat.mul_assoc ..

/-- The first decimal digit of a number is no zero, unless the number is zero. -/
lemma head_toDigits {n : Nat} (h : n ≠ 0) : ∃ c rest, Nat.toDigits 10 n = c :: rest ∧ c ≠ '0' := by
  induction n using Nat.strongRecOn with
  | ind n ih =>
    by_cases hlt : n < 10
    · exact ⟨n.digitChar, [], Nat.toDigits_of_lt_base hlt, by simpa using h⟩
    · obtain ⟨c, rest, hdigits, hc⟩ := ih (n / 10) (by omega) (by omega)
      refine ⟨c, rest ++ [(n % 10).digitChar], ?_, hc⟩
      rw [Nat.toDigits_of_base_le (by decide) (Nat.le_of_not_lt hlt), hdigits, List.cons_append]

/-! ### Digits of a text -/

/-- Digits, at least one. -/
structure IsDigits (digits : List Char) : Prop where
  ne_nil : digits ≠ []
  isDigit : ∀ c ∈ digits, c.isDigit = true

section Decimals

variable {digits first second : List Char} {c : Char}

lemma IsDigits.ne_of_mem (h : IsDigits digits) {d : Char} (hd : d.isDigit = false) :
    ∀ c ∈ digits, c ≠ d := by
  rintro c hc rfl
  rw [h.isDigit c hc] at hd
  cases hd

lemma isDigits_append (hfirst : IsDigits first) (hsecond : ∀ c ∈ second, c.isDigit = true) :
    IsDigits (first ++ second) where
  ne_nil := by simp [hfirst.ne_nil]
  isDigit c hc := (List.mem_append.1 hc).elim (hfirst.isDigit c) (hsecond c)

lemma isDigits_toDigits (n : Nat) : IsDigits (Nat.toDigits 10 n) where
  ne_nil := Nat.toDigits_ne_nil
  isDigit _ hc := Nat.isDigit_of_mem_toDigits (by decide) (by decide) hc

lemma decimalNumber_eq (digits : List Char) :
    decimalNumber digits = Nat.ofDigitChars 10 digits 0 := by
  simp only [decimalNumber, Nat.ofDigitChars_eq_foldl, Nat.mul_comm]

lemma decimalNumber_append (first second : List Char) :
    decimalNumber (first ++ second) =
      decimalNumber first * 10 ^ second.length + decimalNumber second := by
  rw [decimalNumber_eq, Nat.ofDigitChars_append, Nat.ofDigitChars_eq_ofDigitChars_zero,
    ← decimalNumber_eq, ← decimalNumber_eq, Nat.mul_comm]

/-- A digit and its value. -/
lemma digitChar_of_isDigit (h : c.isDigit = true) :
    c.toNat - '0'.toNat < 10 ∧ Nat.digitChar (c.toNat - '0'.toNat) = c := by
  obtain ⟨hlow, hhigh⟩ := Char.isDigit_iff_toNat.1 h
  have hnine : '9'.toNat = '0'.toNat + 9 := rfl
  refine ⟨by omega, Char.toNat_inj.1 ?_⟩
  rw [Nat.toNat_digitChar_of_lt_ten (by omega)]
  have hzero : '0'.toNat = 48 := rfl
  omega

lemma decimalNumber_singleton (c : Char) : decimalNumber [c] = c.toNat - '0'.toNat := by
  simp [decimalNumber]

/-- Digits behind a number that is not zero are the last digits of a number. -/
lemma toDigits_append_digits {n : Nat} (hn : 0 < n) (h : ∀ c ∈ digits, c.isDigit = true) :
    Nat.toDigits 10 n ++ digits =
      Nat.toDigits 10 (n * 10 ^ digits.length + decimalNumber digits) := by
  induction digits generalizing n with
  | nil => simp [decimalNumber]
  | cons c rest ih =>
    obtain ⟨hc, hrest⟩ := List.forall_mem_cons.1 h
    obtain ⟨hlt, hchar⟩ := digitChar_of_isDigit hc
    have hfirst : Nat.toDigits 10 n ++ [c] = Nat.toDigits 10 (10 * n + (c.toNat - '0'.toNat)) := by
      rw [← Nat.toDigits_append_toDigits (by decide) hn hlt, Nat.toDigits_of_lt_base hlt, hchar]
    have hnumber := decimalNumber_append [c] rest
    rw [decimalNumber_singleton] at hnumber
    rw [← List.singleton_append, ← List.append_assoc, hfirst, ih (by omega) hrest, hnumber,
      List.length_append, List.length_singleton, Nat.pow_add]
    rw [Nat.add_mul, Nat.mul_comm 10 n, Nat.mul_assoc, Nat.pow_one, Nat.add_assoc]

/-- Without a zero in front the digits are those of the number that they write. -/
theorem toDigits_decimalNumber (h : IsDigits digits)
    (hhead : digits.head? = some '0' → digits = ['0']) :
    Nat.toDigits 10 (decimalNumber digits) = digits := by
  obtain ⟨c, rest, rfl⟩ := List.exists_cons_of_ne_nil h.ne_nil
  obtain ⟨hc, hrest⟩ := List.forall_mem_cons.1 h.isDigit
  obtain ⟨hlt, hchar⟩ := digitChar_of_isDigit hc
  by_cases hzero : c = '0'
  · obtain rfl : rest = [] := by simpa [hzero] using hhead
    rw [hzero]
    decide
  · have hpos : 0 < c.toNat - '0'.toNat := by
      refine Nat.pos_of_ne_zero fun heq => hzero ?_
      rw [← hchar, heq]
      rfl
    have hfirst := toDigits_append_digits hpos hrest
    have hnumber := decimalNumber_append [c] rest
    rw [decimalNumber_singleton] at hnumber
    rw [Nat.toDigits_of_lt_base hlt, hchar] at hfirst
    exact (hfirst.trans (by rw [← hnumber]; rfl)).symm

/-- As many digits that write the same number are the same ones. -/
lemma eq_of_decimalNumber_eq (hfirst : ∀ c ∈ first, c.isDigit = true)
    (hsecond : ∀ c ∈ second, c.isDigit = true) (hlength : first.length = second.length)
    (h : decimalNumber first = decimalNumber second) : first = second := by
  -- behind a one there is no zero in front
  have hone := toDigits_append_digits Nat.one_pos hfirst
  rw [hlength, h, ← toDigits_append_digits Nat.one_pos hsecond] at hone
  exact List.append_cancel_left hone

/-- The last digit of a number is its rest. -/
lemma decimalNumber_concat_mod (digits : List Char) (h : c.isDigit = true) :
    decimalNumber (digits ++ [c]) % 10 = c.toNat - '0'.toNat := by
  have hlt := (digitChar_of_isDigit h).1
  rw [decimalNumber_append, decimalNumber_singleton, List.length_singleton]
  omega

/-- The last digit is a zero if ten divides the number. -/
lemma getLast?_eq_some_zero (h : IsDigits digits) :
    digits.getLast? = some '0' ↔ decimalNumber digits % 10 = 0 := by
  obtain ⟨init, c, rfl⟩ : ∃ init c, digits = init ++ [c] :=
    ⟨_, _, (List.dropLast_concat_getLast h.ne_nil).symm⟩
  have hc := h.isDigit c (by simp)
  rw [decimalNumber_concat_mod init hc, List.getLast?_append]
  constructor
  · intro heq
    obtain rfl : c = '0' := by simpa using heq
    rfl
  · intro hzero
    rw [← (digitChar_of_isDigit hc).2, hzero]
    rfl

end Decimals

/-! ### Runs of characters -/

/-- A run of members of a class ends in front of a member of another class. -/
lemma takeWhile_append_of_head {α : Type} {p : α → Bool} {front rest : List α}
    (hfront : ∀ c ∈ front, p c = true) (hrest : ∀ c ∈ rest.head?, p c = false) :
    (front ++ rest).takeWhile p = front ∧ (front ++ rest).dropWhile p = rest := by
  induction front with
  | nil =>
    cases rest with
    | nil => exact ⟨rfl, rfl⟩
    | cons c rest =>
      have hc : p c = false := hrest c rfl
      simp [hc]
  | cons c front ih =>
    obtain ⟨hc, hfront⟩ := List.forall_mem_cons.1 hfront
    obtain ⟨htake, hdrop⟩ := ih hfront
    simp [hc, htake, hdrop]

end BindingSync.Text
