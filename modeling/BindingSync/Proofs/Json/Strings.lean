import BindingSync.Json.Printer
import BindingSync.Json.Reader
import BindingSync.Proofs.Fallible
import BindingSync.Proofs.Text.Digits
import BindingSync.Proofs.Text.Joined

/-!
# Written strings

A string is written code point by code point: as the character itself, behind a backslash, as
one unicode escape or as two of them.  `Encoded` lists these forms, and the reader takes each
form off the front of a text again (`stringFrom_encoded`).  Two escapes in a row are the only
trap, because the halves of a surrogate pair are read as one character.  So exactly the joined
strings come back (`string_encodeString`), and the reader gives no others (`isJoined_of_string`).
-/

namespace BindingSync.Json

open BindingSync.Text
open Printer

/-! ### Forms of code points -/

/-- The forms in which a code point is written. -/
inductive Encoded : Point → List Char → Prop
  /-- A printable character is written as it is. -/
  | plain {c : Char} (hspace : 32 ≤ c.toNat) (hquote : c ≠ '"') (hslash : c ≠ '\\') :
      Encoded (.char c) [c]
  | short {c d : Char} (h : Reader.escaped? c = some d) (hu : c ≠ 'u') :
      Encoded (.char d) ['\\', c]
  | unit {n : Nat} (h : n < 0x10000) : Encoded (.ofNat n) (encodeUnit n)
  /-- A character beyond the basic plane is written as a surrogate pair. -/
  | pair {high low : Nat} (hhigh : 0xd800 ≤ high ∧ high < 0xdc00)
      (hlow : 0xdc00 ≤ low ∧ low < 0xe000) :
      Encoded (.char (Reader.charOfPair high low)) (encodeUnit high ++ encodeUnit low)

/-- No code point is written as nothing. -/
lemma Encoded.length_pos {point : Point} {code : List Char} (h : Encoded point code) :
    0 < code.length := by
  cases h <;> simp [encodeUnit]

/-- A character beyond the basic plane is that of the pair that is written for it. -/
lemma charOfPair_offset {c : Char} (h : 0x10000 ≤ c.toNat) :
    Reader.charOfPair (0xd800 + (c.toNat - 0x10000) / 0x400)
      (0xdc00 + (c.toNat - 0x10000) % 0x400) = c := by
  have hsum : 0x10000 + (0xd800 + (c.toNat - 0x10000) / 0x400 - 0xd800) * 0x400 +
      (0xdc00 + (c.toNat - 0x10000) % 0x400 - 0xdc00) = c.toNat := by omega
  rw [Reader.charOfPair, hsum, Char.ofNat_toNat]

/-- No character stands behind the last plane. -/
lemma toNat_lt (c : Char) : c.toNat < 0x110000 := by
  rcases c.valid with h | h
  · exact Nat.lt_trans h (by decide)
  · exact h.2

/-- A character is written in one of the forms. -/
lemma encoded_encodeChar (c : Char) : Encoded (.char c) (encodeChar c) := by
  unfold encodeChar
  split
  · next h =>
    subst h
    exact .short rfl (by decide)
  split
  · next h =>
    subst h
    exact .short rfl (by decide)
  split
  · next h =>
    subst h
    exact .short rfl (by decide)
  split
  · next h =>
    subst h
    exact .short rfl (by decide)
  split
  · next h =>
    subst h
    exact .short rfl (by decide)
  split
  · next h =>
    subst h
    exact .short rfl (by decide)
  split
  · next h =>
    subst h
    exact .short rfl (by decide)
  split
  · next hquote hslash _ _ _ _ _ hprintable => exact .plain hprintable.1 hquote hslash
  split
  · next hplane =>
    have hunit := Encoded.unit hplane
    rwa [show Point.ofNat c.toNat = .char c from Point.ofNat_toNat (.char c)] at hunit
  · next hplane =>
    have hhigh : 0xd800 ≤ 0xd800 + (c.toNat - 0x10000) / 0x400 ∧
        0xd800 + (c.toNat - 0x10000) / 0x400 < 0xdc00 := by
      have := toNat_lt c
      omega
    have hlow : 0xdc00 ≤ 0xdc00 + (c.toNat - 0x10000) % 0x400 ∧
        0xdc00 + (c.toNat - 0x10000) % 0x400 < 0xe000 := by omega
    have hpair := Encoded.pair hhigh hlow
    rwa [charOfPair_offset (by omega)] at hpair

/-- A code point is written in one of the forms. -/
lemma encoded_encodePoint (point : Point) : Encoded point (encodePoint point) := by
  cases point with
  | char c => exact encoded_encodeChar c
  | half place =>
    have hunit := Encoded.unit (n := (Point.half place).toNat) (by
      have := place.isLt
      simp only [Point.toNat, Point.firstHalf]
      omega)
    rwa [Point.ofNat_toNat] at hunit

/-! ### Unicode escapes -/

/-- The reader's first halves are those of the strings. -/
lemma isHighSurrogate_eq (n : Nat) : Reader.isHighSurrogate n = (Point.ofNat n).isHigh := by
  rw [Bool.eq_iff_iff, Point.isHigh_ofNat_iff, Reader.isHighSurrogate, Bool.and_eq_true,
    decide_eq_true_eq, decide_eq_true_eq]

/-- The reader's second halves are those of the strings. -/
lemma isLowSurrogate_eq (n : Nat) : Reader.isLowSurrogate n = (Point.ofNat n).isLow := by
  rw [Bool.eq_iff_iff, Point.isLow_ofNat_iff, Reader.isLowSurrogate, Bool.and_eq_true,
    decide_eq_true_eq, decide_eq_true_eq]

/-- The digits of an escape read as the unit. -/
lemma unit?_hexPadded {n : Nat} (h : n < 0x10000) (rest : List Char) :
    Reader.unit? (hexPadded 4 n ++ rest) = some (n, rest) := by
  have hlength : (hexPadded 4 n).length = 4 := length_hexPadded (by decide) h
  obtain ⟨a, b, c, d, hdigits⟩ := List.length_eq_four.1 hlength
  have hnumber : hexNumber? (hexPadded 4 n) = some n := hexNumber?_hexPadded (by simp [hdigits])
  rw [hdigits] at hnumber ⊢
  simp only [List.cons_append, List.nil_append, Reader.unit?, hnumber, Option.map_some]

/-- A unit is written by four digits. -/
lemma drop_of_unit? {text rest : List Char} {n : Nat} (h : Reader.unit? text = some (n, rest)) :
    text.drop 4 = rest := by
  unfold Reader.unit? at h
  split at h
  · obtain ⟨unit, -, heq⟩ := Option.map_eq_some_iff.1 h
    cases heq
    rfl
  · cases h

/-- What follows does not make up a pair with a first half in front of it. -/
def StandsAlone (text : List Char) : Prop :=
  ∀ more, text = '\\' :: 'u' :: more →
    more.drop 4 = [] ∨ ∃ n rest, Reader.unit? more = some (n, rest) ∧ (Point.ofNat n).isLow = false

/-- An escape reads as its unit, unless it makes up a pair with the next one. -/
lemma unicodeEscape_of_unit {text rest : List Char} {n : Nat}
    (h : Reader.unit? text = some (n, rest)) (hrest : rest ≠ [])
    (halone : (Point.ofNat n).isHigh = true → StandsAlone rest) :
    Reader.unicodeEscape text = .ok (.ofNat n, rest) := by
  unfold Reader.unicodeEscape
  rw [h]
  split
  · next heq => cases heq
  · next heq => cases heq; exact absurd rfl hrest
  · next unit after _ heq =>
    cases heq
    split
    · next more hhigh _ =>
      rw [isHighSurrogate_eq] at hhigh
      rcases halone hhigh more rfl with hshort | ⟨low, last, hunit, hlow⟩
      · rw [if_pos (by rw [hshort]; rfl)]
      · split
        · rfl
        · simp only [hunit, isLowSurrogate_eq, hlow, Bool.false_eq_true, if_false]
    · rfl

/-- Two escapes that make up a pair read as one character. -/
lemma unicodeEscape_of_pair {text more rest : List Char} {high low : Nat}
    (hhigh : 0xd800 ≤ high ∧ high < 0xdc00) (hlow : 0xdc00 ≤ low ∧ low < 0xe000)
    (h : Reader.unit? text = some (high, '\\' :: 'u' :: more))
    (hmore : Reader.unit? more = some (low, rest)) (hrest : rest ≠ []) :
    Reader.unicodeEscape text = .ok (.char (Reader.charOfPair high low), rest) := by
  have hlong : ¬(more.drop 4).isEmpty = true := by
    rw [drop_of_unit? hmore]
    simpa using hrest
  have hhigh' : Reader.isHighSurrogate high = true := by
    rw [isHighSurrogate_eq, Point.isHigh_ofNat_iff.2 hhigh]
  have hlow' : Reader.isLowSurrogate low = true := by
    rw [isLowSurrogate_eq, Point.isLow_ofNat_iff.2 hlow]
  unfold Reader.unicodeEscape
  rw [h]
  simp only [hhigh', hmore, hlow', if_true, if_neg hlong]

/-! ### Reading what was written -/

/-- In front of a closing quote a half stands alone. -/
lemma standsAlone_quote (rest : List Char) : StandsAlone ('"' :: rest) := by
  intro more h
  simp at h

/-- In front of a written code point that is no second half, a half stands alone. -/
lemma standsAlone_encoded {point : Point} {code : List Char} (h : Encoded point code)
    (hlow : point.isLow = false) (rest : List Char) : StandsAlone (code ++ rest) := by
  intro more heq
  cases h with
  | plain _ _ hslash => exact absurd (List.cons.inj heq).1 hslash
  | short _ hu => exact absurd (List.cons.inj (List.cons.inj heq).2).1 hu
  | @unit n hn =>
    have hmore : hexPadded 4 n ++ rest = more := (List.cons.inj (List.cons.inj heq).2).2
    exact .inr ⟨n, rest, hmore ▸ unit?_hexPadded hn rest, hlow⟩
  | @pair high low hhigh _ =>
    rw [List.append_assoc] at heq
    have hmore : hexPadded 4 high ++ (encodeUnit low ++ rest) = more :=
      (List.cons.inj (List.cons.inj heq).2).2
    refine .inr ⟨high, _, hmore ▸ unit?_hexPadded (by omega) _, ?_⟩
    rw [Bool.eq_false_iff, Ne, Point.isLow_ofNat_iff]
    omega

/-- The reader takes a written code point off the front of a text. -/
lemma stringFrom_encoded {point : Point} {code rest : List Char} (h : Encoded point code)
    (hrest : rest ≠ []) (halone : point.isHigh = true → StandsAlone rest) (start : List Char)
    (fuel : Nat) (read : List Point) :
    Reader.stringFrom start (fuel + 1) read (code ++ rest) =
      Reader.stringFrom start fuel (point :: read) rest := by
  cases h with
  | @plain c hspace hquote hslash =>
    rw [List.singleton_append, Reader.stringFrom, if_neg (Nat.not_lt.2 hspace)]
    all_goals simp [hquote, hslash]
  | @short c d hescaped hu =>
    rw [List.cons_append, List.singleton_append, Reader.stringFrom, hescaped]
    simp [hu]
  | @unit n hn =>
    have hescape := unicodeEscape_of_unit (unit?_hexPadded hn rest) hrest halone
    rw [encodeUnit, List.cons_append, List.cons_append, Reader.stringFrom, hescape]
    rfl
  | @pair high low hhigh hlow =>
    have hescape : Reader.unicodeEscape (hexPadded 4 high ++ (encodeUnit low ++ rest)) = _ :=
      unicodeEscape_of_pair hhigh hlow (unit?_hexPadded (by omega) _)
        (unit?_hexPadded (by omega) rest) hrest
    rw [List.append_assoc, encodeUnit, List.cons_append, List.cons_append, Reader.stringFrom,
      hescape]
    rfl

/-- The reader takes written code points off the front of a text, up to the closing quote. -/
lemma stringFrom_flatMap {points : List Point}
    (hjoined : points.IsChain fun first second => ¬Point.IsPair first second)
    (start rest : List Char) {fuel : Nat} (hfuel : points.length < fuel) (read : List Point) :
    Reader.stringFrom start fuel read (points.flatMap encodePoint ++ '"' :: rest) =
      .ok (.ofPoints (read.reverse ++ points), rest) := by
  induction points generalizing fuel read with
  | nil =>
    obtain ⟨fuel, rfl⟩ := Nat.exists_eq_add_of_lt hfuel
    simp [Reader.stringFrom]
  | cons point points ih =>
    obtain ⟨fuel, rfl⟩ : ∃ k, fuel = k + 1 := ⟨fuel - 1, by omega⟩
    rw [List.isChain_cons] at hjoined
    have halone : point.isHigh = true →
        StandsAlone (points.flatMap encodePoint ++ '"' :: rest) := by
      intro hhigh
      cases points with
      | nil => exact standsAlone_quote rest
      | cons next points =>
        have hlow : next.isLow = false :=
          Bool.eq_false_iff.2 fun hlow => hjoined.1 next rfl ⟨hhigh, hlow⟩
        rw [List.flatMap_cons, List.append_assoc]
        exact standsAlone_encoded (encoded_encodePoint next) hlow _
    rw [List.flatMap_cons, List.append_assoc,
      stringFrom_encoded (encoded_encodePoint point) (by simp) halone,
      ih hjoined.2 (by simpa using hfuel)]
    simp

/-- A written string is at least as long as its code points and its quotes. -/
lemma length_le_encodeString (text : WideString) :
    text.points.length + 2 ≤ (encodeString text).length := by
  have hpoints : ∀ points : List Point, points.length ≤ (points.flatMap encodePoint).length := by
    intro points
    induction points with
    | nil => exact Nat.zero_le _
    | cons point points ih =>
      rw [List.flatMap_cons, List.length_append, List.length_cons]
      have := (encoded_encodePoint point).length_pos
      omega
  have := hpoints text.points
  simp only [encodeString, List.length_append, List.length_cons, List.length_nil]
  omega

/-- A joined string that was written is read again. -/
theorem string_encodeString {text : WideString} (h : text.IsJoined) {fuel : Nat}
    (hfuel : text.points.length < fuel) (rest : List Char) :
    Reader.string fuel (encodeString text ++ rest) = .ok (text, rest) := by
  have hsplit : encodeString text ++ rest =
      '"' :: (text.points.flatMap encodePoint ++ '"' :: rest) := by
    simp [encodeString]
  rw [hsplit, Reader.string, List.tail_cons, stringFrom_flatMap h _ _ hfuel, List.reverse_nil,
    List.nil_append, WideString.ofPoints_points]

/-! ### What is read is joined -/

/-- The escape of a second half follows, so it makes up a pair with a first half in front. -/
def LowAhead (text : List Char) : Prop :=
  ∃ more n rest, text = '\\' :: 'u' :: more ∧ Reader.unit? more = some (n, rest) ∧ rest ≠ [] ∧
    (Point.ofNat n).isLow = true

/-- The code point of an escape is a character, or it is the unit itself, which then makes up no
pair with what follows. -/
lemma unicodeEscape_cases {text rest : List Char} {point : Point}
    (h : Reader.unicodeEscape text = .ok (point, rest)) :
    (∃ c, point = .char c) ∨
      ∃ n, point = .ofNat n ∧ Reader.unit? text = some (n, rest) ∧ rest ≠ [] ∧
        (point.isHigh = true → ¬LowAhead rest) := by
  unfold Reader.unicodeEscape at h
  split at h
  · cases h
  · cases h
  · next unit after hne hunit =>
    have hafter : after ≠ [] := fun e => hne (e ▸ rfl)
    split at h
    · next more hhigh _ =>
      split at h
      · next hshort =>
        cases h
        refine .inr ⟨unit, rfl, hunit, hafter, fun _ ⟨_, n, last, heq, hlast, hne', _⟩ => ?_⟩
        cases heq
        rw [drop_of_unit? hlast] at hshort
        exact hne' (List.isEmpty_iff.1 hshort)
      · split at h
        · cases h
        · next low last hlast =>
          split at h
          · cases h
            exact .inl ⟨_, rfl⟩
          · next hlow =>
            cases h
            refine .inr ⟨unit, rfl, hunit, hafter, fun _ ⟨_, n, _, heq, hlast', _, hlow'⟩ => ?_⟩
            cases heq
            rw [hlast] at hlast'
            cases hlast'
            exact hlow (isLowSurrogate_eq low ▸ hlow')
    · next hnone =>
      cases h
      refine .inr ⟨unit, rfl, hunit, hafter, fun hhigh ⟨more, _, _, heq, _⟩ => ?_⟩
      exact hnone more (isHighSurrogate_eq unit ▸ hhigh) heq

/-- What the reader gives for a string is joined, if what it has read so far is and the last code
point makes up no pair with what follows. -/
lemma isJoined_of_stringFrom {start text rest : List Char} {fuel : Nat} {read : List Point}
    {result : WideString} (h : Reader.stringFrom start fuel read text = .ok (result, rest))
    (hread : read.IsChain fun second first => ¬Point.IsPair first second)
    (hlast : ∀ point ∈ read.head?, point.isHigh = true → ¬LowAhead text) : result.IsJoined := by
  induction fuel generalizing read text with
  | zero => cases h
  | succ fuel ih =>
    have hchar : ∀ (c : Char) (text : List Char),
        Reader.stringFrom start fuel (.char c :: read) text = .ok (result, rest) →
          result.IsJoined := by
      intro c text h
      refine ih h (List.isChain_cons.2 ⟨fun _ _ hpair => Bool.false_ne_true hpair.2, hread⟩) ?_
      intro point hmem hhigh
      cases hmem
      exact absurd hhigh Bool.false_ne_true
    unfold Reader.stringFrom at h
    split at h
    · cases h
    · cases h
      rw [WideString.isJoined_ofPoints, List.isChain_reverse]
      exact hread
    · cases h
    · next more =>
      obtain ⟨⟨point, after⟩, hescape, hrest⟩ := exists_of_bind_eq_ok h
      rcases unicodeEscape_cases hescape with ⟨c, rfl⟩ | ⟨n, rfl, hunit, hafter, hnext⟩
      · exact hchar c after hrest
      · -- a second half right behind a first one would have been its other half
        refine ih hrest (List.isChain_cons.2 ⟨fun first hfirst hpair => ?_, hread⟩) ?_
        · exact hlast first hfirst hpair.1 ⟨more, n, after, rfl, hunit, hafter, hpair.2⟩
        · intro point hmem hhigh
          cases hmem
          exact hnext hhigh
    · split at h
      · exact hchar _ _ h
      · cases h
    · split at h
      · cases h
      · exact hchar _ _ h

/-- A string that is read is joined. -/
theorem isJoined_of_string {fuel : Nat} {text rest : List Char} {result : WideString}
    (h : Reader.string fuel text = .ok (result, rest)) : result.IsJoined :=
  isJoined_of_stringFrom h .nil (fun _ hmem => by cases hmem)

end BindingSync.Json
