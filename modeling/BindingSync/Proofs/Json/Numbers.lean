import Mathlib.Data.List.TakeWhile
import BindingSync.Json.Reader
import BindingSync.Proofs.Text.Digits

/-!
# Written numbers

An integer is written as a sign and digits, and the reader takes it off the front of a text
again, provided that nothing behind it goes on with the number (`plain_toString`).  What the
reader takes for a number is an integer that is short enough to be written, or no integer at all
(`plain_cases`).
-/

namespace BindingSync.Json

open BindingSync.Text
open BindingSync.Numeral (Binary64)

/-- The text in front of which a number ends. -/
def EndsNumber (rest : List Char) : Prop :=
  ∀ c ∈ rest.head?, c.isDigit = false ∧ c ≠ '.' ∧ c ≠ 'e' ∧ c ≠ 'E'

/-! ### Reading what was written -/

/-- The whole part of a number is taken off as it was written. -/
lemma whole?_toDigits (n : Nat) {rest : List Char} (h : EndsNumber rest) :
    Reader.whole? (Nat.toDigits 10 n ++ rest) = some (Nat.toDigits 10 n, rest) := by
  by_cases hzero : n = 0
  · subst hzero
    rfl
  · obtain ⟨c, more, hdigits, hc⟩ := head_toDigits hzero
    have hall : ∀ d ∈ c :: more, d.isDigit = true := fun d hd =>
      Nat.isDigit_of_mem_toDigits (by decide) (by decide) (hdigits ▸ hd)
    obtain ⟨htake, hdrop⟩ := takeWhile_append_of_head hall fun d hd => (h d hd).1
    rw [hdigits, List.cons_append, Reader.whole?]
    · rw [← List.cons_append, Reader.digits, htake, hdrop]
    · intro others heq
      exact hc (List.cons.inj heq).1

/-- Where a number ends there is no fraction. -/
lemma fraction_of_ends {rest : List Char} (h : EndsNumber rest) :
    Reader.fraction rest = ([], rest) := by
  cases rest with
  | nil => rfl
  | cons c rest =>
    have hpoint := (h c rfl).2.1
    unfold Reader.fraction
    split
    · next heq => exact absurd (List.cons.inj heq).1 hpoint
    · rfl

/-- Where a number ends there is no exponent. -/
lemma exponent?_of_ends {rest : List Char} (h : EndsNumber rest) :
    Reader.exponent? rest = none := by
  cases rest with
  | nil => rfl
  | cons c rest =>
    obtain ⟨-, -, hsmall, hlarge⟩ := h c rfl
    exact if_neg (not_or.2 ⟨hsmall, hlarge⟩)

/-- The characters of an integer: a sign if it is negative, and the digits. -/
lemma toList_toString (n : Int) :
    (toString n).toList = (if n < 0 then ['-'] else []) ++ Nat.toDigits 10 n.natAbs := by
  rw [Int.toString_eq_repr, Int.repr_eq_if]
  by_cases h : 0 ≤ n
  · rw [if_pos h, if_neg (Int.not_lt.2 h), Nat.toList_repr, List.nil_append]
    congr
    omega
  · rw [if_neg h, if_pos (Int.not_le.1 h), String.toList_append, Nat.toList_repr]
    congr
    omega

/-- A decimal number starts with a digit. -/
lemma head_digits (n : Nat) : ∃ c more, Nat.toDigits 10 n = c :: more ∧ c.isDigit = true := by
  cases hdigits : Nat.toDigits 10 n with
  | nil => exact absurd hdigits Nat.toDigits_ne_nil
  | cons c more =>
    exact ⟨c, more, rfl, Nat.isDigit_of_mem_toDigits (by decide) (by decide)
      (hdigits ▸ List.mem_cons_self : c ∈ Nat.toDigits 10 n)⟩

/-- A written integer starts with a minus sign or a digit. -/
lemma head_toString (n : Int) :
    ∃ c more, (toString n).toList = c :: more ∧ (c = '-' ∨ c.isDigit = true) := by
  obtain ⟨c, more, hdigits, hdigit⟩ := head_digits n.natAbs
  rw [toList_toString, hdigits]
  split
  · exact ⟨'-', _, rfl, .inl rfl⟩
  · exact ⟨c, more, rfl, .inr hdigit⟩

/-- A written integer is read, if it is short enough and the number ends with it. -/
lemma number_toString {n : Int} (hshort : Integer.isWritable n = true) {rest : List Char}
    (h : EndsNumber rest) : Reader.number ((toString n).toList ++ rest) = .ok (.int n, rest) := by
  have hlength : ¬Integer.maxDigits < (Nat.toDigits 10 n.natAbs).length := by
    simpa [Integer.isWritable] using hshort
  rw [toList_toString]
  by_cases hneg : n < 0
  · rw [if_pos hneg, List.singleton_append, List.cons_append]
    simp only [Reader.number, whole?_toDigits _ h, fraction_of_ends h, exponent?_of_ends h,
      if_neg hlength, if_true, decimalNumber_toDigits]
    congr
    omega
  · obtain ⟨c, more, hdigits, hdigit⟩ := head_digits n.natAbs
    have hsign : ∀ others, c :: (more ++ rest) = '-' :: others → False := by
      intro others heq
      rw [(List.cons.inj heq).1] at hdigit
      exact absurd hdigit (by decide)
    have hwhole := whole?_toDigits n.natAbs h
    rw [hdigits, List.cons_append] at hwhole
    rw [if_neg hneg, List.nil_append, hdigits, List.cons_append]
    unfold Reader.number
    split
    next negative unsigned heq =>
    split at heq
    · next others heq' => exact absurd heq' (hsign others)
    · cases heq
      simp only [hwhole, fraction_of_ends h, exponent?_of_ends h, if_neg hlength,
        Bool.false_eq_true, if_false, ← hdigits, decimalNumber_toDigits]
      congr
      omega

/-- A word does not start with a number: neither of its first two characters is a digit. -/
lemma head_word {entry : String × Json} (h : entry ∈ Reader.words) :
    ∃ first second more, entry.1.toList = first :: second :: more ∧ first.isDigit = false ∧
      second.isDigit = false := by
  simp only [Reader.words, List.mem_cons, List.not_mem_nil, or_false] at h
  rcases h with rfl | rfl | rfl | rfl | rfl | rfl <;> exact ⟨_, _, _, rfl, rfl, rfl⟩

/-- A text that starts like a number does not start with a word. -/
lemma word?_of_number {c : Char} {text : List Char}
    (h : c.isDigit = true ∨ c = '-' ∧ ∀ d ∈ text.head?, d.isDigit = true)
    {entry : String × Json} (hmem : entry ∈ Reader.words) :
    Reader.word? entry.1.toList (c :: text) = none := by
  obtain ⟨first, second, more, heq, hfirst, hsecond⟩ := head_word hmem
  have hne : ∀ {digit other : Char}, digit.isDigit = true → other.isDigit = false →
      other ≠ digit := fun hdigit hother e => by
    rw [e, hdigit] at hother
    cases hother
  rw [heq, Reader.word?]
  rcases h with hdigit | ⟨rfl, hnext⟩
  · exact if_neg (hne hdigit hfirst)
  · split
    · cases text with
      | nil => rfl
      | cons d text => exact if_neg (hne (hnext d rfl) hsecond)
    · rfl

/-- A written null is read. -/
lemma plain_null (rest : List Char) : Reader.plain ("null".toList ++ rest) = .ok (.null, rest) :=
  rfl

/-- A written truth value is read. -/
lemma plain_bool (value : Bool) (rest : List Char) :
    Reader.plain ((if value then "true".toList else "false".toList) ++ rest) =
      .ok (.bool value, rest) := by
  cases value <;> rfl

/-- What starts like a number is read as a number. -/
lemma plain_eq_number {c : Char} {text : List Char}
    (h : c.isDigit = true ∨ c = '-' ∧ ∀ d ∈ text.head?, d.isDigit = true) :
    Reader.plain (c :: text) = Reader.number (c :: text) := by
  rw [Reader.plain]
  split
  · next found hfound =>
    obtain ⟨entry, hmem, hentry⟩ := List.exists_of_findSome?_eq_some hfound
    simp only [word?_of_number h hmem] at hentry
    cases hentry
  · rfl

/-- A written integer is read as a value without parts. -/
theorem plain_toString {n : Int} (hshort : Integer.isWritable n = true) {rest : List Char}
    (h : EndsNumber rest) : Reader.plain ((toString n).toList ++ rest) = .ok (.int n, rest) := by
  have hnumber := number_toString hshort h
  obtain ⟨c, more, hdigits, hdigit⟩ := head_digits n.natAbs
  rw [toList_toString, hdigits] at hnumber ⊢
  by_cases hneg : n < 0
  · rw [if_pos hneg] at hnumber ⊢
    rw [← hnumber]
    exact plain_eq_number (.inr ⟨rfl, fun d hd => by cases hd; exact hdigit⟩)
  · rw [if_neg hneg] at hnumber ⊢
    rw [← hnumber]
    exact plain_eq_number (.inl hdigit)

/-! ### What is read is short -/

/-- The integers that can be written are those within a power of ten. -/
lemma isWritable_iff {n : Int} :
    Integer.isWritable n = true ↔ n.natAbs < 10 ^ Integer.maxDigits := by
  rw [Integer.isWritable, decide_eq_true_eq, Nat.length_toDigits_le_iff (by decide) (by decide)]

/-- A number of few digits can be written. -/
lemma isWritable_decimalNumber {digits : List Char} (h : ∀ c ∈ digits, c.isDigit = true)
    (hlength : digits.length ≤ Integer.maxDigits) {n : Int}
    (hn : n.natAbs = decimalNumber digits) : Integer.isWritable n = true := by
  rw [isWritable_iff, hn]
  exact Nat.lt_of_lt_of_le (decimalNumber_lt h) (Nat.pow_le_pow_right (by decide) hlength)

/-- The whole part of a number is made of digits. -/
lemma isDigit_of_whole? {text found rest : List Char}
    (h : Reader.whole? text = some (found, rest)) : ∀ c ∈ found, c.isDigit = true := by
  unfold Reader.whole? at h
  split at h
  · cases h
    simp
  · split at h
    · cases h
    · cases h
      exact fun c hc => List.mem_takeWhile_imp hc

/-- A number that is read is a short integer, or it is no integer. -/
lemma number_cases {text rest : List Char} {value : Json}
    (h : Reader.number text = .ok (value, rest)) :
    (∃ n, value = .int n ∧ Integer.isWritable n = true) ∨ ∃ x, value = .float x := by
  unfold Reader.number at h
  split at h
  next negative unsigned _ =>
  split at h
  · cases h
  · next whole after hwhole =>
    split at h
    next fraction behind _ =>
    split at h
    · split at h
      · cases h
      · next hlength =>
        cases h
        refine .inl ⟨_, rfl, isWritable_decimalNumber (isDigit_of_whole? hwhole)
          (Nat.le_of_not_lt hlength) ?_⟩
        split <;> simp
    · cases h
      exact .inr ⟨_, rfl⟩
    · cases h
      exact .inr ⟨_, rfl⟩

/-- A value without parts that is read is a short integer, or it is no integer and no string. -/
theorem plain_cases {text rest : List Char} {value : Json}
    (h : Reader.plain text = .ok (value, rest)) :
    (∃ n, value = .int n ∧ Integer.isWritable n = true) ∨ (∃ x, value = .float x) ∨
      (∃ b, value = .bool b) ∨ value = .null := by
  unfold Reader.plain at h
  split at h
  · next found hfound =>
    obtain ⟨entry, hmem, hentry⟩ := List.exists_of_findSome?_eq_some hfound
    obtain ⟨after, -, rfl⟩ := Option.map_eq_some_iff.1 hentry
    cases h
    simp only [Reader.words, List.mem_cons, List.not_mem_nil, or_false] at hmem
    rcases hmem with rfl | rfl | rfl | rfl | rfl | rfl <;> simp
  · exact (number_cases h).imp_right .inl

end BindingSync.Json
