import BindingSync.Proofs.Text.Digits
import BindingSync.Text.Integer

/-!
# Reading hexadecimal integers

A person may write an integer with the mark of a base.  The hexadecimal form of a number that is not
negative is such a text, and it is read as the number, however long it is: the limit to the digits
of a number is one for decimal digits only.  So is any run of hexadecimal digits behind a `0x`, of
either case (`inBase?_hexadecimal`).
-/

namespace BindingSync.Text.Integer

/-- Without underscores, the digits behind a mark are read as any digits are. -/
lemma digitsFrom_eq_numberFrom {base value : Nat} {text : List Char}
    (h : ∀ c ∈ text, c ≠ '_') :
    digitsFrom base value false text = numberFrom base (digitIn? base) value text := by
  induction text generalizing value with
  | nil => rfl
  | cons c rest ih =>
    obtain ⟨hc, hrest⟩ := List.forall_mem_cons.1 h
    rw [digitsFrom, if_neg hc, numberFrom]
    cases digitIn? base c with
    | none => rfl
    | some d => exact ih hrest

/-- What holds of the hexadecimal digits: they are letters and digits of ASCII, with their values. -/
lemma digitChar_hex : ∀ d, d < 16 → toAscii (Nat.digitChar d) = Nat.digitChar d ∧
    isAsciiBlank (Nat.digitChar d) = false ∧ Nat.digitChar d ≠ '_' ∧
      digitIn? 16 (Nat.digitChar d) = some d := by
  decide

/-- A text of ASCII without blanks is taken as it is. -/
lemma normalized_eq_self {text : List Char}
    (h : ∀ c ∈ text, toAscii c = c ∧ isAsciiBlank c = false) : normalized text = text := by
  have hmap : text.map toAscii = text :=
    (List.map_congr_left fun c hc => (h c hc).1).trans (List.map_id _)
  have hfront : text.dropWhile isAsciiBlank = text := by
    cases text with
    | nil => rfl
    | cons c rest => rw [List.dropWhile_cons_of_neg (by simp [(h c List.mem_cons_self).2])]
  have hback : text.reverse.dropWhile isAsciiBlank = text.reverse := by
    cases hreverse : text.reverse with
    | nil => rfl
    | cons c rest =>
      have hc : c ∈ text := by
        rw [← List.mem_reverse, hreverse]
        exact List.mem_cons_self
      rw [List.dropWhile_cons_of_neg (by simp [(h c hc).2])]
  rw [normalized, hmap, stripWith, hfront, hback, List.reverse_reverse]

/-- The hexadecimal digits of a number are read as the number. -/
lemma digits?_toDigits (n : Nat) : digits? 16 (Nat.toDigits 16 n) = some n := by
  have hdigits : ∀ c ∈ Nat.toDigits 16 n, c ≠ '_' := by
    intro c hc
    obtain ⟨d, hlt, rfl⟩ := exists_of_mem_toDigits (by decide) hc
    exact (digitChar_hex d hlt).2.2.1
  have hread := numberFrom_toDigits (by decide) (fun d hd => (digitChar_hex d hd).2.2.2) n
  have hhead : (Nat.toDigits 16 n).head? ≠ some '_' := fun heq =>
    hdigits '_' (List.mem_of_mem_head? heq) rfl
  have hempty : (Nat.toDigits 16 n).isEmpty = false := by
    simp [Nat.toDigits_ne_nil]
  rw [digits?, digitsFrom_eq_numberFrom hdigits, hread]
  simp [hempty, hhead, isTooLong]

/-- A number that is not negative is read from its hexadecimal form. -/
theorem ofString?_hexOfInt {n : Int} (h : 0 ≤ n) : ofString? (hexOfInt n) = some n := by
  have hform : ∀ c ∈ '0' :: 'x' :: Nat.toDigits 16 n.toNat,
      toAscii c = c ∧ isAsciiBlank c = false := by
    intro c hc
    rcases List.mem_cons.1 hc with rfl | hc
    · decide
    rcases List.mem_cons.1 hc with rfl | hc
    · decide
    obtain ⟨d, hlt, rfl⟩ := exists_of_mem_toDigits (by decide) hc
    exact ⟨(digitChar_hex d hlt).1, (digitChar_hex d hlt).2.1⟩
  have hmark : withoutMark (Nat.toDigits 16 n.toNat) = Nat.toDigits 16 n.toNat := by
    unfold withoutMark
    split
    · next rest heq =>
      obtain ⟨d, hlt, hd⟩ := exists_of_mem_toDigits (by decide) (heq ▸ List.mem_cons_self)
      exact absurd hd.symm (digitChar_hex d hlt).2.2.1
    · rfl
  have hunsigned : unsigned? ('0' :: 'x' :: Nat.toDigits 16 n.toNat) = some n.toNat := by
    simp [unsigned?, hmark, digits?_toDigits]
  rw [ofString?, hexOfInt_eq h, String.toList_ofList, signed?, normalized_eq_self hform]
  change (unsigned? ('0' :: 'x' :: Nat.toDigits 16 n.toNat)).map Int.ofNat = some n
  rw [hunsigned]
  exact congrArg some (Int.toNat_of_nonneg h)

/-- The character is a hexadecimal digit of either case. -/
def IsHexDigit (c : Char) : Prop :=
  ('0' ≤ c ∧ c ≤ '9') ∨ ('a' ≤ c ∧ c ≤ 'f') ∨ ('A' ≤ c ∧ c ≤ 'F')

/-- What holds of the hexadecimal digits of either case. -/
lemma IsHexDigit.reads {c : Char} (h : IsHexDigit c) :
    toAscii c = c ∧ isAsciiBlank c = false ∧ c ≠ '_' ∧
      ∃ digit, hexDigit? c = some digit ∧ digitIn? 16 c = some digit := by
  have hle : ∀ a b : Char, a ≤ b ↔ a.toNat ≤ b.toNat := fun _ _ => Iff.rfl
  simp only [IsHexDigit, hle, Char.reduceToNat] at h
  obtain ⟨digit, hvalue, hlt⟩ : ∃ digit, hexDigit? c = some digit ∧ digit < 16 := by
    simp only [hexDigit?, hle, Char.reduceToNat]
    split_ifs <;> simp <;> omega
  have hblank : c ≠ ' ' := by
    rintro rfl
    simp at h
  refine ⟨?_, ?_, ?_, digit, hvalue, by simp [digitIn?, hvalue, hlt]⟩
  · rw [toAscii, if_pos (by omega)]
  · simp only [isAsciiBlank, hblank, decide_false, Bool.false_or, Bool.and_eq_false_iff,
      decide_eq_false_iff_not]
    omega
  · rintro rfl
    simp at h

/-- No other characters write a hexadecimal number. -/
lemma isHexDigit_of_hexNumber? {digits : List Char} {n : Nat} (h : hexNumber? digits = some n) :
    digits ≠ [] ∧ ∀ c ∈ digits, IsHexDigit c := by
  have hall : ∀ value, numberFrom 16 hexDigit? value digits = some n → ∀ c ∈ digits, IsHexDigit c := by
    clear h
    induction digits with
    | nil => simp
    | cons c rest ih =>
      intro value hread
      obtain ⟨digit, hdigit, hrest⟩ := Option.bind_eq_some_iff.1 hread
      refine List.forall_mem_cons.2 ⟨?_, ih _ hrest⟩
      unfold hexDigit? at hdigit
      split_ifs at hdigit with hdecimal hlower hupper
      · exact .inl hdecimal
      · exact .inr (.inl hlower)
      · exact .inr (.inr hupper)
  cases digits with
  | nil => cases h
  | cons c rest => exact ⟨by simp, hall 0 h⟩

/-- Hexadecimal digits behind a `0x` are read as the number that they write. -/
lemma inBase?_hexadecimal {digits : List Char} (hne : digits ≠ [])
    (h : ∀ c ∈ digits, IsHexDigit c) :
    ∃ n : Nat, hexNumber? digits = some n ∧ inBase? 16 ('0' :: 'x' :: digits) = some (n : Int) := by
  have hform : ∀ c ∈ '0' :: 'x' :: digits, toAscii c = c ∧ isAsciiBlank c = false := by
    intro c hc
    rcases List.mem_cons.1 hc with rfl | hc
    · decide
    rcases List.mem_cons.1 hc with rfl | hc
    · decide
    exact ⟨(h c hc).reads.1, (h c hc).reads.2.1⟩
  have hunderscore : ∀ c ∈ digits, c ≠ '_' := fun c hc => (h c hc).reads.2.2.1
  have hread : ∀ value, ∃ n, numberFrom 16 hexDigit? value digits = some n ∧
      numberFrom 16 (digitIn? 16) value digits = some n := by
    clear hne hform hunderscore
    induction digits with
    | nil => exact fun value => ⟨value, rfl, rfl⟩
    | cons c rest ih =>
      obtain ⟨hc, hrest⟩ := List.forall_mem_cons.1 h
      obtain ⟨digit, hdigit, hdigitIn⟩ := hc.reads.2.2.2
      intro value
      simpa only [numberFrom, hdigit, hdigitIn, Option.bind_some] using
        ih hrest (value * 16 + digit)
  obtain ⟨n, hn, hnIn⟩ := hread 0
  obtain ⟨first, rest, rfl⟩ := List.exists_cons_of_ne_nil hne
  have hfirst : first ≠ '_' := hunderscore first List.mem_cons_self
  have hmark : withoutMark (first :: rest) = first :: rest := by
    rw [withoutMark]
    intro _ heq
    exact hfirst (List.cons.inj heq).1
  refine ⟨n, hn, ?_⟩
  rw [inBase?, signed?, normalized_eq_self hform]
  simp [unsignedIn?, marksOf, hmark, digits?, isTooLong, hfirst,
    digitsFrom_eq_numberFrom hunderscore, hnIn]

end BindingSync.Text.Integer
