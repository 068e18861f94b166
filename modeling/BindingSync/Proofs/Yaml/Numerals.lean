import Mathlib.Data.List.TakeWhile
import BindingSync.Proofs.Text.Integers
import BindingSync.Proofs.Yaml.Fields
import BindingSync.Proofs.Yaml.Rules

/-!
# Reading digits and points

The reader gives a scalar of digits and points the type that the rules for their forms say, and the
value that its digits write; so it follows these rules (`resolvesNumerals_load`).
-/

namespace BindingSync.Yaml

open BindingSync.Numeral (Binary64 Decimal)
open BindingSync.Text

/-- A digit in front, and digits and points behind it. -/
inductive IsNumeral : List Char → Prop
  | cons {first : Char} {rest : List Char} (hfirst : first.isDigit = true)
      (hrest : ∀ c ∈ rest, c.isDigit = true ∨ c = '.') : IsNumeral (first :: rest)

section Numerals

variable {first text : List Char} {others : List (List Char)} {c : Char}

lemma isNumeral_dotted (hfirst : IsDigits first) (hothers : ∀ run ∈ others, IsDigits run) :
    IsNumeral (dotted first others) := by
  obtain ⟨hne, hdigits⟩ := hfirst
  obtain ⟨c, rest, rfl⟩ := List.exists_cons_of_ne_nil hne
  obtain ⟨hc, hrest⟩ := List.forall_mem_cons.1 hdigits
  refine .cons hc fun d hd => ?_
  rcases List.mem_append.1 hd with hd | hd
  · exact .inl (hrest d hd)
  · obtain ⟨run, hrun, hd⟩ := List.mem_flatMap.1 hd
    rcases List.mem_cons.1 hd with rfl | hd
    · exact .inr rfl
    · exact .inl ((hothers run hrun).isDigit d hd)

lemma IsNumeral.mem (h : IsNumeral text) (hc : c ∈ text) : c.isDigit = true ∨ c = '.' := by
  obtain ⟨hfirst, hrest⟩ := h
  rcases List.mem_cons.1 hc with rfl | hc
  · exact .inl hfirst
  · exact hrest c hc

lemma IsNumeral.not_mem (h : IsNumeral text) (hc : (c.isDigit || c = '.') = false) : c ∉ text := by
  intro hmem
  rcases h.mem hmem with hdigit | rfl
  · simp [hdigit] at hc
  · simp at hc

lemma IsNumeral.isWord (h : IsNumeral text) : IsWord text := by
  obtain ⟨hfirst, hrest⟩ := h
  refine .cons (by simp [Char.isAlphanum, hfirst]) fun c hc => ?_
  rcases hrest c hc with hdigit | rfl
  · simp [IsWordChar, Char.isAlphanum, hdigit]
  · rfl

/-! ### The tag -/

lemma IsNumeral.withoutSign_eq (h : IsNumeral text) : Plain.withoutSign text = text := by
  have hminus := h.not_mem (c := '-') (by decide)
  have hplus := h.not_mem (c := '+') (by decide)
  cases h
  unfold Plain.withoutSign
  split <;> simp_all

/-- A numeral is no word that starts with anything else. -/
lemma IsNumeral.contains_eq_false (h : IsNumeral text) (words : List String)
    (hwords : ∀ word ∈ words, word.toList.head?.all (fun c => !c.isDigit) = true) :
    words.contains (String.ofList text) = false := by
  rw [List.contains_eq_mem, decide_eq_false_iff_not]
  intro hmem
  have hhead := hwords _ hmem
  obtain ⟨hfirst, -⟩ := h
  simp [hfirst] at hhead

/-- A date has a hyphen in it. -/
lemma IsNumeral.isWritten_eq_false (h : IsNumeral text) : Moment.isWritten text = false := by
  have hmark : ∀ count, Moment.mark? '-' (text.drop count) = none := by
    intro count
    cases hdrop : text.drop count with
    | nil => rfl
    | cons c rest =>
      rw [Moment.mark?, if_neg]
      rintro rfl
      exact h.not_mem (by decide) (List.mem_of_mem_drop (hdrop ▸ List.mem_cons_self))
  have hdate : Moment.dateFrom? 1 text = none := by
    rw [Moment.dateFrom?, Moment.digitsUpTo]
    split <;> simp [hmark]
  rw [Moment.isWritten, Moment.ofText?, hdate]
  rfl

lemma IsNumeral.tagOf_eq (h : IsNumeral text) : Plain.tagOf (String.ofList text) =
    if Plain.isFloat text then .float else if Plain.isInt text then .int else .text := by
  have hbreak : Plain.withoutLastBreak text = text := by
    rw [Plain.withoutLastBreak, if_neg]
    exact fun hlast => h.not_mem (by decide) (List.mem_of_getLast? hlast)
  have hline : String.ofList text ≠ "\n" := by
    simpa using h.contains_eq_false ["\n"] (by decide)
  have hmerge : String.ofList text ≠ "<<" := by
    simpa using h.contains_eq_false ["<<"] (by decide)
  have hdefault : String.ofList text ≠ "=" := by
    simpa using h.contains_eq_false ["="] (by decide)
  rw [Plain.tagOf, String.toList_ofList, hbreak, if_neg hline, h.contains_eq_false _ (by decide),
    h.contains_eq_false _ (by decide), h.contains_eq_false _ (by decide), h.isWritten_eq_false,
    if_neg hmerge, if_neg hdefault]
  rfl

/-! ### Whole numbers -/

lemma isNumeral_of_isDigits (h : IsDigits text) : IsNumeral text := by
  rw [← dotted_nil text]
  exact isNumeral_dotted h (by simp)

lemma isFloat_digits (h : IsDigits text) : Plain.isFloat text = false := by
  have hwhole : text.takeWhile (· != '.') = text :=
    List.takeWhile_eq_self_iff.2 fun c hc => bne_iff_ne.2 (h.ne_of_mem (by decide) c hc)
  rw [Plain.isFloat, (isNumeral_of_isDigits h).withoutSign_eq, hwhole]
  simp

lemma isDigits_eq_true (h : IsDigits text) : Plain.isDigits text = true := by
  have hhead : text.head?.any Char.isDigit = true := by
    obtain ⟨c, rest, rfl⟩ := List.exists_cons_of_ne_nil h.ne_nil
    simpa using h.isDigit c List.mem_cons_self
  have hall : text.all Plain.isDigitMark = true :=
    List.all_eq_true.2 fun c hc => by simp [Plain.isDigitMark, h.isDigit c hc]
  rw [Plain.isDigits, hhead, hall]
  rfl

lemma isInt_digits (h : IsDigits text) : Plain.isInt text = decide ¬IsFalseOctal text := by
  rw [Plain.isInt, (isNumeral_of_isDigits h).withoutSign_eq]
  have hdigits := isDigits_eq_true h
  unfold Plain.isUnsignedInt
  split
  · exact absurd rfl (h.ne_of_mem (d := 'b') (by decide) 'b' (by simp))
  · exact absurd rfl (h.ne_of_mem (d := 'x') (by decide) 'x' (by simp))
  · next rest _ _ =>
    -- all digits are at least zero, and none is an underscore
    have hdigit : ∀ c ∈ rest, '0' ≤ c ∧ c ≠ '_' := fun c hc =>
      ⟨(Char.isDigit_iff_toNat.1 (h.isDigit c (List.mem_cons_of_mem _ hc))).1,
        h.ne_of_mem (by decide) c (List.mem_cons_of_mem _ hc)⟩
    rw [Bool.eq_iff_iff, List.all_eq_true, decide_eq_true_iff]
    constructor
    · rintro hall ⟨-, c, hc, hseven⟩
      rcases List.mem_cons.1 hc with rfl | hc
      · exact absurd hseven (by decide)
      · have := hall c hc
        simp [(hdigit c hc).2] at this
        exact absurd hseven (Char.not_lt.2 this.2)
    · intro hoctal c hc
      have hseven : c ≤ '7' := Char.not_lt.1 fun hlt =>
        hoctal ⟨rfl, c, List.mem_cons_of_mem _ hc, hlt⟩
      simp [(hdigit c hc).1, hseven]
  · next hzero =>
    rw [hdigits]
    have hhead : text.head? ≠ some '0' := by
      intro heq
      obtain ⟨rest, rfl⟩ := List.head?_eq_some_iff.1 heq
      exact hzero rest rfl
    simp [IsFalseOctal, hhead]

/-- Whole numbers are integers, but not with a zero in front of a digit above seven. -/
lemma tagOf_digits (h : IsDigits text) :
    Plain.tagOf (String.ofList text) = if IsFalseOctal text then .text else .int := by
  rw [(isNumeral_of_isDigits h).tagOf_eq, isFloat_digits h, isInt_digits h]
  split_ifs <;> simp_all

/-- A zero alone is in front of no digit. -/
lemma not_isFalseOctal (hhead : text.head? = some '0' → text = ['0']) : ¬IsFalseOctal text := by
  rintro ⟨hzero, c, hc, hseven⟩
  rw [hhead hzero, List.mem_singleton] at hc
  rw [hc] at hseven
  exact absurd hseven (by decide)

/-! ### Decimals -/

lemma colonPieces_eq (h : ':' ∉ text) : Plain.colonPieces text = (text, []) := by
  induction text with
  | nil => rfl
  | cons c rest ih =>
    obtain ⟨hc, hrest⟩ := not_or.1 (mt List.mem_cons.2 h)
    rw [Plain.colonPieces, ih hrest]
    simp [Ne.symm hc]

lemma isFloat_pointed {whole rest : List Char} (hwhole : IsDigits whole)
    (h : IsNumeral (whole ++ '.' :: rest)) :
    Plain.isFloat (whole ++ '.' :: rest) = Plain.isFraction rest := by
  have hfront : (whole ++ '.' :: rest).takeWhile (· != '.') = whole :=
    (takeWhile_append_of_head (fun c hc => bne_iff_ne.2 (hwhole.ne_of_mem (by decide) c hc))
      (by simp)).1
  have hsixties : Plain.isSixties whole = false := by
    rw [Plain.isSixties, colonPieces_eq ((isNumeral_of_isDigits hwhole).not_mem (by decide))]
  rw [Plain.isFloat, h.withoutSign_eq, hfront]
  simp [hwhole.ne_nil, isDigits_eq_true hwhole, hsixties]

/-- A point is in no integer. -/
lemma isInt_pointed {whole rest : List Char}
    (h : IsNumeral (whole ++ '.' :: rest)) : Plain.isInt (whole ++ '.' :: rest) = false := by
  have hpoint : '.' ∈ whole ++ '.' :: rest := by simp
  have hdigits : Plain.isDigits (whole ++ '.' :: rest) = false := by
    simp [Plain.isDigits, Plain.isDigitMark]
  have hsixties : Plain.isSixties (whole ++ '.' :: rest) = false := by
    rw [Plain.isSixties, colonPieces_eq (h.not_mem (by decide))]
  rw [Plain.isInt, h.withoutSign_eq]
  unfold Plain.isUnsignedInt
  split
  · next heq => exact absurd (heq ▸ by simp) (h.not_mem (c := 'b') (by decide))
  · next heq => exact absurd (heq ▸ by simp) (h.not_mem (c := 'x') (by decide))
  · next tail _ _ heq =>
    have htail : '.' ∈ tail := by
      rw [heq] at hpoint
      simpa using hpoint
    exact List.all_eq_false.2 ⟨'.', htail, by decide⟩
  · rw [hdigits, hsixties]
    rfl

lemma isDigitMark_of_mem {run : List Char} (h : IsDigits run) :
    ∀ c ∈ run, Plain.isDigitMark c = true :=
  fun c hc => by simp [Plain.isDigitMark, h.isDigit c hc]

/-- A number with one point is a floating-point number. -/
lemma tagOf_decimal {whole fraction : List Char} (hwhole : IsDigits whole)
    (hfraction : IsDigits fraction) :
    Plain.tagOf (String.ofList (dotted whole [fraction])) = .float := by
  have h : IsNumeral (dotted whole [fraction]) := isNumeral_dotted hwhole (by simpa using hfraction)
  have hend : fraction.dropWhile Plain.isDigitMark = [] :=
    List.dropWhile_eq_nil_iff.2 (isDigitMark_of_mem hfraction)
  rw [dotted_singleton] at h
  rw [dotted_singleton, h.tagOf_eq, isFloat_pointed hwhole h, Plain.isFraction, hend]
  rfl

/-- A number with more than one point is a text. -/
lemma tagOf_dotted {second third : List Char} (hfirst : IsDigits first) (hsecond : IsDigits second)
    (hthird : IsDigits third) (hothers : ∀ run ∈ others, IsDigits run) :
    Plain.tagOf (String.ofList (dotted first (second :: third :: others))) = .text := by
  have h : IsNumeral (dotted first (second :: third :: others)) := by
    refine isNumeral_dotted hfirst ?_
    simpa [hsecond, hthird] using hothers
  have hform : dotted first (second :: third :: others) =
      first ++ '.' :: (second ++ '.' :: dotted third others) := by
    simp [dotted]
  have hend : (second ++ '.' :: dotted third others).dropWhile Plain.isDigitMark =
      '.' :: dotted third others :=
    (takeWhile_append_of_head (isDigitMark_of_mem hsecond) (by simp [Plain.isDigitMark])).2
  rw [hform] at h
  rw [hform, h.tagOf_eq, isFloat_pointed hfirst h, Plain.isFraction, hend, isInt_pointed h]
  obtain ⟨c, rest, hc⟩ := List.exists_cons_of_ne_nil hthird.ne_nil
  simp [dotted, hc, Plain.isExponent]

/-! ### Integers -/

lemma IsNumeral.toAscii_eq (h : IsNumeral text) :
    ∀ c ∈ text, Integer.toAscii c = c ∧ Integer.isAsciiBlank c = false := by
  intro c hc
  rcases h.mem hc with hdigit | rfl
  · have hrange : 48 ≤ c.toNat ∧ c.toNat ≤ 57 := Char.isDigit_iff_toNat.1 hdigit
    have hblank : c ≠ ' ' := by
      rintro rfl
      cases hdigit
    refine ⟨if_pos (by omega), ?_⟩
    simp [Integer.isAsciiBlank, hblank]
    omega
  · decide

lemma IsNumeral.digitsOf_eq (h : IsNumeral text) : Number.digitsOf (String.ofList text) = text := by
  rw [Number.digitsOf, String.toList_ofList, List.filter_eq_self]
  intro c hc
  rw [bne_iff_ne]
  rintro rfl
  exact h.not_mem (by decide) hc

lemma IsNumeral.int_eq (h : IsNumeral text) :
    Number.int (String.ofList text) = Number.unsignedInt text := by
  rw [Number.int, h.digitsOf_eq]
  split
  · cases h
  · exact absurd List.mem_cons_self (h.not_mem (by decide))
  · rw [h.withoutSign_eq]

/-- Digits have no mark of a base in front. -/
lemma inBase?_digits (h : IsDigits text) (base : Nat) :
    Integer.inBase? base text = (Integer.digits? base text).map Int.ofNat := by
  have hnumeral := isNumeral_of_isDigits h
  have hmark : Integer.unsignedIn? base text = Integer.digits? base text := by
    unfold Integer.unsignedIn?
    split
    · next c rest =>
      have hletter : ∀ mark ∈ Integer.marksOf base, mark.isDigit = false := by
        unfold Integer.marksOf
        split_ifs <;> simp
      have hmarks : (Integer.marksOf base).contains c = false := by
        rw [List.contains_eq_mem, decide_eq_false_iff_not]
        exact fun hmem => h.ne_of_mem (hletter c hmem) c (by simp) rfl
      rw [hmarks]
      rfl
    · rfl
  rw [Integer.inBase?, Integer.signed?, Integer.normalized_eq_self hnumeral.toAscii_eq]
  split
  · exact absurd List.mem_cons_self (hnumeral.not_mem (by decide))
  · exact absurd List.mem_cons_self (hnumeral.not_mem (by decide))
  · rw [hmark]

lemma hexDigit?_of_isDigit (h : c.isDigit = true) : hexDigit? c = some (c.toNat - '0'.toNat) :=
  if_pos (Char.isDigit_iff_toNat.1 h)

lemma digits?_digits (h : IsDigits text) (base : Nat) : Integer.digits? base text =
    if Integer.isTooLong base text then none
    else numberFrom base (Integer.digitIn? base) 0 text := by
  have hmark : ∀ c ∈ text, c ≠ '_' := h.ne_of_mem (by decide)
  have hhead : text.head? ≠ some '_' := fun heq => hmark '_' (List.mem_of_mem_head? heq) rfl
  rw [Integer.digits?, Integer.digitsFrom_eq_numberFrom hmark]
  simp [h.ne_nil, hhead]

lemma digitIn?_of_isDigit (h : c.isDigit = true) {base : Nat} (hlt : c.toNat - '0'.toNat < base) :
    Integer.digitIn? base c = some (c.toNat - '0'.toNat) := by
  rw [Integer.digitIn?, hexDigit?_of_isDigit h, Option.filter_some, if_pos (decide_eq_true hlt)]

/-- Digits below a base write their number in it. -/
lemma numberFrom_digits {base : Nat} (h : ∀ c ∈ text, c.isDigit = true ∧ c.toNat - '0'.toNat < base)
    (value : Nat) :
    numberFrom base (Integer.digitIn? base) value text =
      some (Nat.ofDigitChars base text value) := by
  induction text generalizing value with
  | nil => rfl
  | cons c rest ih =>
    obtain ⟨⟨hc, hlt⟩, hrest⟩ := List.forall_mem_cons.1 h
    rw [numberFrom, digitIn?_of_isDigit hc hlt, Option.bind_some, ih hrest, Nat.ofDigitChars_cons,
      Nat.mul_comm]

/-- Decimal digits write their number. -/
lemma numberFrom_decimal (h : ∀ c ∈ text, c.isDigit = true) :
    numberFrom 10 (Integer.digitIn? 10) 0 text = some (decimalNumber text) := by
  rw [numberFrom_digits fun c hc => ⟨h c hc, (digitChar_of_isDigit (h c hc)).1⟩,
    Nat.ofDigitChars_eq_foldl]
  simp only [decimalNumber, Nat.mul_comm]

lemma isTooLong_digits (h : IsDigits text) :
    Integer.isTooLong 10 text = decide (Integer.maxDigits < text.length) := by
  have hcount : text.countP (· != '_') = text.length :=
    List.countP_eq_length.2 fun c hc => bne_iff_ne.2 (h.ne_of_mem (by decide) c hc)
  rw [Integer.isTooLong, hcount]
  rfl

/-- Without a zero in front the integer is the number of the digits, of which there are not too
many. -/
lemma int_digits (h : IsDigits text) (hhead : text.head? = some '0' → text = ['0']) :
    Number.int (String.ofList text) =
      if text.length ≤ Integer.maxDigits then .ok (decimalNumber text : Int)
      else .error .unacceptable := by
  have hnumeral := isNumeral_of_isDigits h
  rw [hnumeral.int_eq]
  unfold Number.unsignedInt
  split
  · exact absurd rfl h.ne_nil
  · cases hhead rfl
  · cases hhead rfl
  · next rest _ _ =>
    obtain rfl : rest = [] := by simpa using hhead rfl
    decide
  · rw [List.contains_eq_mem, decide_eq_false (hnumeral.not_mem (by decide)),
      inBase?_digits h, digits?_digits h, isTooLong_digits h, numberFrom_decimal h.isDigit]
    by_cases hle : text.length ≤ Integer.maxDigits
    · simp [hle, Nat.not_lt.2 hle, Number.orUnacceptable]
    · simp [hle, Nat.not_le.1 hle, Number.orUnacceptable]

/-- With a zero in front the integer is an octal one. -/
lemma int_octal (h : IsDigits text) (hhead : text.head? = some '0')
    (hoctal : ¬IsFalseOctal text) :
    Number.int (String.ofList text) = .ok (Nat.ofDigitChars 8 text 0 : Int) := by
  have hdigits : ∀ c ∈ text, c.isDigit = true ∧ c.toNat - '0'.toNat < 8 := by
    refine fun c hc => ⟨h.isDigit c hc, ?_⟩
    have hle : c.toNat ≤ '7'.toNat := Char.not_lt.1 fun hlt => hoctal ⟨hhead, c, hc, hlt⟩
    have hseven : '7'.toNat = '0'.toNat + 7 := rfl
    omega
  rw [(isNumeral_of_isDigits h).int_eq]
  unfold Number.unsignedInt
  split
  · exact absurd rfl h.ne_nil
  · exact absurd rfl (h.ne_of_mem (d := 'b') (by decide) 'b' (by simp))
  · exact absurd rfl (h.ne_of_mem (d := 'x') (by decide) 'x' (by simp))
  · rw [inBase?_digits h, digits?_digits h, numberFrom_digits hdigits]
    rfl
  · next hzero =>
    obtain ⟨rest, rfl⟩ := List.head?_eq_some_iff.1 hhead
    exact absurd rfl (hzero rest)

/-! ### Floating-point numbers -/

/-- A numeral is no word. -/
lemma IsNumeral.ofList_map_toLower_ne (h : IsNumeral text) {word : String}
    (hword : word.toList.head?.all (fun c => !c.isDigit) = true) :
    String.ofList (text.map Char.toLower) ≠ word := by
  have hlower : text.map Char.toLower = text := by
    refine (List.map_congr_left fun c hc => ?_).trans (List.map_id _)
    rcases h.mem hc with hdigit | rfl
    · have hnine : c.toNat < 'A'.toNat :=
        Nat.lt_of_le_of_lt (Char.isDigit_iff_toNat.1 hdigit).2 (by decide)
      exact dif_neg fun hupper => Nat.not_le.2 hnine (UInt32.le_iff_toNat_le.1 hupper.1)
    · decide
  rw [hlower]
  simpa using h.contains_eq_false [word] (by simpa using hword)

lemma IsNumeral.sign_eq (h : IsNumeral text) : Binary64.sign text = (false, text) := by
  unfold Binary64.sign
  split
  · exact absurd List.mem_cons_self (h.not_mem (by decide))
  · exact absurd List.mem_cons_self (h.not_mem (by decide))
  · rfl

/-- Digits around a point are read as the number nearest to their decimal. -/
lemma float_decimal {whole fraction : List Char} (hwhole : IsDigits whole)
    (hfraction : IsDigits fraction) :
    Number.float (String.ofList (dotted whole [fraction])) =
      .ok (Decimal.ofDigits whole fraction).nearest := by
  have h : IsNumeral (dotted whole [fraction]) := isNumeral_dotted hwhole (by simpa using hfraction)
  have hfront : (whole ++ '.' :: fraction).takeWhile Char.isDigit = whole ∧
      (whole ++ '.' :: fraction).dropWhile Char.isDigit = '.' :: fraction :=
    takeWhile_append_of_head hwhole.isDigit (by simp)
  have hback : fraction.takeWhile Char.isDigit = fraction ∧ fraction.dropWhile Char.isDigit = [] :=
    ⟨List.takeWhile_eq_self_iff.2 hfraction.isDigit, List.dropWhile_eq_nil_iff.2 hfraction.isDigit⟩
  have hdecimal : Binary64.decimal? false (dotted whole [fraction]) =
      some (Decimal.ofDigits whole fraction).nearest := by
    simp [Binary64.decimal?, dotted_singleton, hfront, hback, hwhole.ne_nil, Binary64.exponent?,
      Decimal.ofDigits, Decimal.nearest]
  have htext : Binary64.ofText? (dotted whole [fraction]) =
      some (Decimal.ofDigits whole fraction).nearest := by
    rw [Binary64.ofText?, Integer.normalized_eq_self h.toAscii_eq, h.sign_eq]
    simp [h.ofList_map_toLower_ne, hdecimal]
  have hunsigned : Number.unsignedFloat (dotted whole [fraction]) =
      .ok (Decimal.ofDigits whole fraction).nearest := by
    rw [Number.unsignedFloat]
    simp [h.ofList_map_toLower_ne, h.not_mem (c := ':') (by decide), htext, Number.orUnacceptable]
  rw [Number.float, h.digitsOf_eq]
  split
  · next heq => exact absurd heq (by simp [dotted])
  · next heq => exact absurd (heq ▸ List.mem_cons_self) (h.not_mem (by decide))
  · rw [h.withoutSign_eq, hunsigned]

end Numerals

/-! ### The rules -/

section Rules

variable {key word : List Char} {atom : Atom} (hkey : IsWord key) (hshort : key.length ≤ 1024)
  (htag : Plain.tagOf (String.ofList key) = .text) (hword : IsWord word)

lemma pairText_eq (key word : List Char) :
    pairText (String.ofList key) word = String.ofList (fieldText key word) := by
  rw [← String.toList_inj]
  simp [pairText, fieldText]

include hkey hshort htag hword

/-- What the reader gives for a word, it gives for the word behind a key. -/
lemma loads_of_newValue (hvalue : Build.newValue 2 (Document.fieldBuilder key word) =
      .ok (.atom atom, Document.fieldBuilder key word)) :
    Loads load (String.ofList key) word atom := by
  refine ⟨fieldDocument (String.ofList key) (.atom atom), ?_, rfl⟩
  rw [pairText_eq, load, Document.ofString_field_of_ok hkey hshort htag hword hvalue]
  rfl

lemma loads_of_text (h : Plain.tagOf (String.ofList word) = .text) :
    Loads load (String.ofList key) word (.text (String.ofList word)) :=
  loads_of_newValue hkey hshort htag hword (Document.newValue_of_text h)

lemma loads_of_float (h : Plain.tagOf (String.ofList word) = .float) {x : Binary64}
    (hx : Number.float (String.ofList word) = .ok x) (hnan : x ≠ .nan) :
    Loads load (String.ofList key) word (.float x) := by
  refine loads_of_newValue hkey hshort htag hword ?_
  rw [Document.newValue_of_float h, Build.bind_apply (Document.float_fieldBuilder hx hnan)]
  rfl

lemma loads_of_int (h : Plain.tagOf (String.ofList word) = .int) {n : Nat}
    (hn : Number.int (String.ofList word) = .ok (n : Int)) :
    Loads load (String.ofList key) word (.int n) := by
  refine loads_of_newValue hkey hshort htag hword ?_
  rw [Document.newValue_of_int h, hn]
  rfl

lemma load_of_int_error (h : Plain.tagOf (String.ofList word) = .int) {crash : Crash}
    (hcrash : Number.int (String.ofList word) = .error crash) :
    load (pairText (String.ofList key) word) = .error (.crash crash) := by
  have hvalue : Build.newValue 2 (Document.fieldBuilder key word) = .error (.crash crash) := by
    rw [Document.newValue_of_int h, hcrash]
    rfl
  rw [pairText_eq, load, Document.ofString_field_of_error hkey hshort htag hword hvalue]
  rfl

omit hword

/-- The reader follows the rules for scalars of digits and points. -/
theorem resolvesNumerals_load : ResolvesNumerals load (String.ofList key) where
  decimal hdigits hhead hfew := by
    refine loads_of_int hkey hshort htag (isNumeral_of_isDigits hdigits).isWord ?_ ?_
    · rw [tagOf_digits hdigits, if_neg (not_isFalseOctal hhead)]
    · rw [int_digits hdigits hhead, if_pos hfew]
  longDecimal {digits} hdigits hhead hlong := by
    have hplain : digits.head? = some '0' → digits = ['0'] := fun h => absurd h hhead
    refine load_of_int_error hkey hshort htag (isNumeral_of_isDigits hdigits).isWord ?_ ?_
    · rw [tagOf_digits hdigits, if_neg (not_isFalseOctal hplain)]
    · rw [int_digits hdigits hplain, if_neg (Nat.not_le.2 hlong)]
  octal hdigits hhead hoctal := by
    refine loads_of_int hkey hshort htag (isNumeral_of_isDigits hdigits).isWord ?_ ?_
    · rw [tagOf_digits hdigits, if_neg hoctal]
    · exact int_octal hdigits hhead hoctal
  falseOctal hdigits hoctal := by
    refine loads_of_text hkey hshort htag (isNumeral_of_isDigits hdigits).isWord ?_
    rw [tagOf_digits hdigits, if_pos hoctal]
  pointed {whole fraction} hwhole hfraction := by
    have hnumeral : IsNumeral (Yaml.dotted whole [fraction]) :=
      isNumeral_dotted hwhole (by simpa using hfraction)
    refine loads_of_float hkey hshort htag hnumeral.isWord (tagOf_decimal hwhole hfraction)
      (float_decimal hwhole hfraction) ?_
    rcases (Decimal.ofDigits whole fraction).nearest_cases with hread | ⟨_, _, hread⟩ <;>
      simp [hread]
  dotted {first second third others} hfirst hothers := by
    obtain ⟨hsecond, hrest⟩ := List.forall_mem_cons.1 hothers
    obtain ⟨hthird, hmore⟩ := List.forall_mem_cons.1 hrest
    exact loads_of_text hkey hshort htag (isNumeral_dotted hfirst hothers).isWord
      (tagOf_dotted hfirst hsecond hthird hmore)

end Rules

end BindingSync.Yaml
