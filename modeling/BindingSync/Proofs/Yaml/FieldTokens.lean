import Mathlib.Tactic.Common
import BindingSync.Yaml.Token

/-!
# The tokens of one field

A text of a key, a colon, a space and a word is taken apart by three steps of the scanner: the key,
which is a plain scalar until its colon is met, the colon and the word (`tokenize_field`).  Words
have letters, digits and points, so they end where a colon and a space follow, or the text ends.
-/

namespace BindingSync.Yaml

open BindingSync.Text

/-! ### Words -/

/-- A letter or a digit of ASCII, or a point. -/
def IsWordChar (c : Char) : Prop :=
  (c.isAlphanum || c = '.') = true

/-- A word has letters, digits and points, and no point in front. -/
inductive IsWord : List Char → Prop
  | cons {first : Char} {rest : List Char} (hfirst : first.isAlphanum = true)
      (hrest : ∀ c ∈ rest, IsWordChar c) : IsWord (first :: rest)

/-- What stands behind a word: nothing, or a colon and a space. -/
inductive FollowsWord : List Char → Prop
  | nothing : FollowsWord []
  | colon (rest : List Char) : FollowsWord (':' :: ' ' :: rest)

/-- The place behind so many characters of one line. -/
def Place.behind (place : Place) (count : Nat) : Place :=
  ⟨place.index + count, place.line, place.column + count⟩

section Words

variable {c : Char} {word rest : List Char} {place : Place}

lemma IsWordChar.not_mem (h : IsWordChar c) (marks : List Char)
    (hmarks : marks.any (fun d => d.isAlphanum || d = '.') = false) : c ∉ marks :=
  fun hmem => List.any_eq_false.1 hmarks c hmem h

lemma IsWordChar.isSpace_eq_false (h : IsWordChar c) : isSpace c = false := by
  have hmarks := h.not_mem [' ', '\t', '\n', '\r', '\x85', '\u2028', '\u2029'] rfl
  simpa [isSpace, isBreak, and_assoc] using hmarks

lemma IsWordChar.isBreak_eq_false (h : IsWordChar c) : isBreak c = false := by
  have hspace := h.isSpace_eq_false
  rw [isSpace, Bool.or_eq_false_iff] at hspace
  exact hspace.2

lemma isWordChar_of_isAlphanum (h : c.isAlphanum = true) : IsWordChar c := by
  simp [IsWordChar, h]

lemma IsWord.isWordChar (h : IsWord word) : ∀ c ∈ word, IsWordChar c := by
  obtain ⟨hfirst, hrest⟩ := h
  exact List.forall_mem_cons.2 ⟨isWordChar_of_isAlphanum hfirst, hrest⟩

/-- Behind characters of one line the place is on that line. -/
lemma skip_inLine {line : List Char} (h : ∀ c ∈ line, isBreak c = false ∧ c ≠ '\uFEFF') :
    (Text.mk (line ++ rest) place).skip line.length = ⟨rest, place.behind line.length⟩ := by
  induction line generalizing place with
  | nil => rfl
  | cons c line ih =>
    obtain ⟨hc, hline⟩ := List.forall_mem_cons.1 h
    rw [List.length_cons, Text.skip, Text.next, List.cons_append]
    dsimp only
    rw [ih hline, Place.after, hc.1]
    simp [hc.2, Place.behind, Nat.add_assoc, Nat.add_comm 1]

lemma skip_word (h : ∀ c ∈ word, IsWordChar c) :
    (Text.mk (word ++ rest) place).skip word.length = ⟨rest, place.behind word.length⟩ :=
  skip_inLine fun c hc => ⟨(h c hc).isBreak_eq_false, by
    simpa using (h c hc).not_mem ['\uFEFF'] rfl⟩

/-- A word is read up to its end. -/
lemma plainWord_eq (h : ∀ c ∈ word, IsWordChar c) (hrest : FollowsWord rest) :
    Scalar.plainWord false (word ++ rest) = word := by
  induction word with
  | nil => cases hrest <;> rfl
  | cons c word ih =>
    obtain ⟨hc, hword⟩ := List.forall_mem_cons.1 h
    have hcolon : c ≠ ':' := by simpa using hc.not_mem [':'] rfl
    simp [Scalar.plainWord, hc.isSpace_eq_false, hcolon, ih hword]

/-- Behind a word the scalar does not go on. -/
lemma plain_word (h : IsWord word) (hrest : FollowsWord rest) (place : Place) (indent : Int) :
    Scalar.plain false indent ⟨word ++ rest, place⟩ =
      ⟨word, ⟨rest, place.behind word.length⟩, false⟩ := by
  have hgap : Scalar.plainGap ⟨rest, place.behind word.length⟩ =
      ⟨[], ⟨rest, place.behind word.length⟩, false⟩ := by
    cases hrest <;> rfl
  have hmark : (Text.mk (word ++ rest) place).peek ≠ some '#' := by
    cases h with
    | cons hfirst =>
      simpa [Text.peek] using (isWordChar_of_isAlphanum hfirst).not_mem ['#'] rfl
  have hne : word ≠ [] := by
    rintro rfl
    cases h
  rw [Scalar.plain, Scalar.plainFrom, if_neg hmark]
  dsimp only
  rw [plainWord_eq h.isWordChar hrest, skip_word h.isWordChar, hgap]
  simp [hne]

end Words

/-! ### The tokens of a field -/

namespace Scanner

variable {c : Char} {word rest : List Char} {scanner : Scanner} {place : Place}

lemma hasMark_of_ne {text : Text} {mark : Char} (h : ∀ d ∈ text.rest.head?, d ≠ mark) :
    text.hasMark mark = false := by
  unfold Text.hasMark
  split
  · next heq =>
    rw [heq] at h
    simp [h _ rfl]
  · rfl

/-- A letter or a digit starts a plain scalar. -/
lemma token_of_isAlphanum (hrest : scanner.text.rest = c :: rest) (h : c.isAlphanum = true) :
    token scanner c rest.head? = plainScalar scanner := by
  have hc := isWordChar_of_isAlphanum h
  have hpoint : c ≠ '.' := by
    rintro rfl
    simp at h
  have hmarks := hc.not_mem ['%', '[', '\x7b', ']', '\x7d', ',', '-', '?', ':', '*', '&', '!', '|',
    '>', '\'', '"'] rfl
  have hindicator : isIndicator c = false := by
    simpa [isIndicator] using hc.not_mem "-?:,[]\x7b\x7d#&*!|>'\"%@`".toList rfl
  have hhyphens : scanner.text.hasMark '-' = false :=
    hasMark_of_ne (by rw [hrest]; simp_all)
  have hpoints : scanner.text.hasMark '.' = false :=
    hasMark_of_ne (by rw [hrest]; simp_all)
  simp only [List.mem_cons, not_or] at hmarks
  simp [token, startsPlain, hmarks, hindicator, hc.isSpace_eq_false, hhyphens, hpoints]

/-- Spaces in front of a word are passed over. -/
lemma skipBlanks_word (count : Nat) (htext : scanner.text =
      ⟨List.replicate count ' ' ++ (word ++ rest), place⟩) (h : IsWord word) (steps : Nat) :
    skipBlanks (steps + 1) scanner =
      { scanner with text := ⟨word ++ rest, place.behind count⟩ } := by
  cases h with
  | @cons first tail hfirst _ =>
    have hc := isWordChar_of_isAlphanum hfirst
    have hmarks := hc.not_mem [' ', '#'] rfl
    have hbreaks := hc.not_mem ['\r', '\n', '\x85'] rfl
    simp only [List.mem_cons, List.not_mem_nil, or_false, not_or] at hmarks hbreaks
    have hspaces : scanner.text.skipSpaces = ⟨first :: tail ++ rest, place.behind count⟩ := by
      have hskip : (Text.mk (List.replicate count ' ' ++ (first :: tail ++ rest)) place).skip
          (List.replicate count ' ').length =
            ⟨first :: tail ++ rest, place.behind (List.replicate count ' ').length⟩ :=
        skip_inLine (by simp [List.mem_replicate, isBreak])
      rw [List.length_replicate] at hskip
      rw [htext, Text.skipSpaces, Text.dropWhile, Text.span,
        List.takeWhile_append_of_pos (by simp [List.mem_replicate])]
      simpa [hmarks] using hskip
    have hcomment : (Text.mk (first :: tail ++ rest) (place.behind count)).peek ≠ some '#' := by
      simpa [Text.peek] using hmarks.2
    have hbreak : (Text.mk (first :: tail ++ rest) (place.behind count)).lineBreak? = none := by
      simp [Text.lineBreak?, hbreaks, hc.isBreak_eq_false]
    simp only [skipBlanks, hspaces, if_neg hcomment, hbreak]

/-- No collection is deeper than the column. -/
lemma unwind_of_le {column : Int} (h : scanner.indent ≤ column) :
    scanner.unwind column = scanner := by
  unfold unwind
  split
  · cases scanner.indents with
    | nil => rfl
    | cons outer outers => rw [unwindTo, if_neg (Int.not_lt.2 h)]
  · rfl

section Steps

variable {passed : Scanner}
  (hblanks : skipBlanks (scanner.text.rest.length + 1) scanner = passed)
  (hkeys : dropStaleKeys passed = .ok passed) (hindent : passed.indent ≤ passed.text.place.column)
include hblanks hkeys hindent

/-- A step takes the token behind the blanks. -/
lemma step_of_cons (hrest : passed.text.rest = c :: rest) :
    step scanner = (token passed c rest.head?).map (·, true) := by
  simp only [step, hblanks, hkeys, bind, Except.bind, unwind_of_le hindent, hrest]
  cases token passed c rest.head? <;> rfl

/-- The last step ends all collections. -/
lemma step_of_nil (hrest : passed.text.rest = []) :
    step scanner = (dropKey (passed.unwind (-1))).map (·, false) := by
  simp only [step, hblanks, hkeys, bind, Except.bind, unwind_of_le hindent, hrest]
  cases dropKey (passed.unwind (-1)) <;> rfl

end Steps

/-- A word is taken as a plain scalar. -/
lemma plainScalar_word (keys : List (Int × PossibleKey))
    (htext : scanner.text = ⟨word ++ rest, place⟩) (h : IsWord word) (hrest : FollowsWord rest)
    (hflow : scanner.flow = 0) (hkey : saveKey scanner = .ok { scanner with keys }) :
    plainScalar scanner = .ok { scanner with
      text := ⟨rest, place.behind word.length⟩
      tokens := scanner.tokens ++ [⟨.scalar (String.ofList word) true, place⟩]
      allowsKey := false
      keys } := by
  have hplain := plain_word h hrest place (scanner.indent + 1)
  simp [plainScalar, hkey, inBlock, hflow, htext, hplain, pushScalar, push, bind, Except.bind,
    pure, Except.pure]

variable {key : List Char}

/-- The scanner in front of a field. -/
def atKey (key word : List Char) : Scanner where
  text := ⟨key ++ ':' :: ' ' :: word, {}⟩

/-- The scanner behind the key of a field, which may still be a scalar. -/
def atColon (key word : List Char) : Scanner where
  text := ⟨':' :: ' ' :: word, Place.behind {} key.length⟩
  tokens := [⟨.scalar (String.ofList key) true, {}⟩]
  allowsKey := false
  keys := [(0, ⟨0, false, {}⟩)]

/-- The scanner behind the colon of a field. -/
def atValue (key word : List Char) : Scanner where
  text := ⟨' ' :: word, (Place.behind {} key.length).behind 1⟩
  tokens := [⟨.mappingStart, {}⟩, ⟨.key, {}⟩, ⟨.scalar (String.ofList key) true, {}⟩,
    ⟨.value, Place.behind {} key.length⟩]
  indent := 0
  indents := [-1]
  allowsKey := false

/-- The scanner behind a field. -/
def atEnd (key word : List Char) : Scanner where
  text := ⟨[], (((Place.behind {} key.length).behind 1).behind 1).behind word.length⟩
  tokens := (atValue key word).tokens ++
    [⟨.scalar (String.ofList word) true, ((Place.behind {} key.length).behind 1).behind 1⟩]
  indent := 0
  indents := [-1]
  allowsKey := false

lemma step_atKey (hkey : IsWord key) (word : List Char) :
    step (atKey key word) = .ok (atColon key word, true) := by
  have htext : (atKey key word).text = ⟨key ++ ':' :: ' ' :: word, {}⟩ := rfl
  have hblanks := skipBlanks_word 0 htext hkey (atKey key word).text.rest.length
  have hplain := plainScalar_word [(0, ⟨0, false, {}⟩)] htext hkey (.colon word) rfl rfl
  cases hkey with
  | @cons first tail hfirst hrest =>
    have htoken : token (atKey (first :: tail) word) first (tail ++ ':' :: ' ' :: word).head? =
        plainScalar (atKey (first :: tail) word) := token_of_isAlphanum rfl hfirst
    rw [hplain] at htoken
    rw [step_of_cons hblanks rfl (by simp [atKey]) rfl]
    exact congrArg (Except.map (·, true)) htoken

/-- A key is kept in mind up to its colon, if that is not too far away. -/
lemma dropStaleKeys_atColon (hshort : key.length ≤ 1024) (word : List Char) :
    dropStaleKeys (atColon key word) = .ok (atColon key word) := by
  have hfresh : isStale (Place.behind {} key.length) ⟨0, false, {}⟩ = false := by
    simp [isStale, Place.behind, hshort]
  simp [dropStaleKeys, atColon, hfresh]

lemma step_atColon (hkey : IsWord key) (hshort : key.length ≤ 1024) (word : List Char) :
    step (atColon key word) = .ok (atValue key word, true) := by
  have hblanks : skipBlanks ((atColon key word).text.rest.length + 1) (atColon key word) =
      atColon key word := rfl
  have hvalue : value (atColon key word) = .ok (atValue key word) := rfl
  have htoken : token (atColon key word) ':' (some ' ') = value (atColon key word) := by
    have hcolumn : (atColon key word).text.place.column ≠ 0 := by
      cases hkey
      simp [atColon, Place.behind]
    simp [token, hcolumn, endsWord, isSpace]
  rw [step_of_cons hblanks (dropStaleKeys_atColon hshort word) (by simp [atColon]) rfl]
  change (token (atColon key word) ':' (some ' ')).map _ = _
  rw [htoken, hvalue]
  rfl

lemma step_atValue (hword : IsWord word) :
    step (atValue key word) = .ok (atEnd key word, true) := by
  have htext : (atValue key word).text =
      ⟨List.replicate 1 ' ' ++ (word ++ []), (Place.behind {} key.length).behind 1⟩ := by
    rw [List.append_nil]
    rfl
  have hblanks := skipBlanks_word 1 htext hword (atValue key word).text.rest.length
  rw [List.append_nil] at hblanks
  have hpassed : Scanner.text { atValue key word with
      text := ⟨word, ((Place.behind {} key.length).behind 1).behind 1⟩ } =
        ⟨word ++ [], ((Place.behind {} key.length).behind 1).behind 1⟩ := by
    rw [List.append_nil]
  have hplain := plainScalar_word [] hpassed hword .nothing rfl rfl
  cases hword with
  | @cons first tail hfirst hrest =>
    rw [step_of_cons hblanks rfl (by simp [atValue]) rfl, token_of_isAlphanum rfl hfirst, hplain]
    rfl

/-- The tokens of a field. -/
def fieldTokens (key word : List Char) : List Token :=
  (atEnd key word).tokens ++ [⟨.blockEnd, (atEnd key word).text.place⟩]

lemma exists_step_atEnd (key word : List Char) :
    ∃ last : Scanner, step (atEnd key word) = .ok (last, false) ∧
      last.tokens = fieldTokens key word := by
  have hblanks : skipBlanks ((atEnd key word).text.rest.length + 1) (atEnd key word) =
      atEnd key word := rfl
  exact ⟨_, step_of_nil hblanks rfl (by simp [atEnd]) rfl, rfl⟩

end Scanner

/-- The text of a key and a word. -/
def fieldText (key word : List Char) : List Char :=
  key ++ ':' :: ' ' :: word

lemma isAllowed_of_isWordChar {c : Char} (h : IsWordChar c) : isAllowed c = true := by
  have hrange : 0x20 ≤ c.toNat ∧ c.toNat ≤ 0x7e := by
    have hbetween : ∀ low high : Char, 0x20 ≤ low.toNat → high.toNat ≤ 0x7e →
        low.val ≤ c.val ∧ c.val ≤ high.val → 0x20 ≤ c.toNat ∧ c.toNat ≤ 0x7e :=
      fun _ _ hlow hhigh hc => ⟨Nat.le_trans hlow hc.1, Nat.le_trans hc.2 hhigh⟩
    have hboth : ∀ {p q : Prop} [Decidable p] [Decidable q],
        (decide p && decide q) = true → p ∧ q := by
      simp
    rcases Bool.or_eq_true_iff.1 h with halphanum | hpoint
    · rcases Bool.or_eq_true_iff.1 halphanum with halpha | hdigit
      · rcases Bool.or_eq_true_iff.1 halpha with hupper | hlower
        · exact hbetween 'A' 'Z' (by decide) (by decide) (of_decide_eq_true hupper)
        · exact hbetween 'a' 'z' (by decide) (by decide) (hboth hlower)
      · exact hbetween '0' '9' (by decide) (by decide) (hboth hdigit)
    · rw [of_decide_eq_true hpoint]
      decide
  simp [isAllowed, hrange]

variable {key word : List Char}

/-- A field is a block of one key and one value. -/
lemma tokenize_field (hkey : IsWord key) (hshort : key.length ≤ 1024) (hword : IsWord word) :
    tokenize (fieldText key word) = ⟨Scanner.fieldTokens key word, none⟩ := by
  have hallowed : (fieldText key word).any (fun c => !isAllowed c) = false := by
    have hkeyChars : key.any (fun c => !isAllowed c) = false := by
      simpa using fun c hc => isAllowed_of_isWordChar (hkey.isWordChar c hc)
    have hwordChars : word.any (fun c => !isAllowed c) = false := by
      simpa using fun c hc => isAllowed_of_isWordChar (hword.isWordChar c hc)
    rw [fieldText, List.any_append, List.any_cons, List.any_cons, hkeyChars, hwordChars]
    rfl
  have hmark : (fieldText key word).head? ≠ some '\uFEFF' := by
    cases hkey with
    | cons hfirst =>
      simpa [fieldText] using (isWordChar_of_isAlphanum hfirst).not_mem ['\uFEFF'] rfl
  obtain ⟨steps, hsteps⟩ : ∃ steps, (fieldText key word).length + 1 = steps + 4 := by
    cases hkey
    cases hword
    exact ⟨_, by simp [fieldText]; rfl⟩
  obtain ⟨last, hend, hlast⟩ := Scanner.exists_step_atEnd key word
  rw [tokenize, hallowed, if_neg (by decide), hsteps]
  dsimp only
  rw [if_neg hmark]
  change Scanner.run (steps + 4) (Scanner.atKey key word) = _
  simp only [Scanner.run, Scanner.step_atKey hkey, Scanner.step_atColon hkey hshort,
    Scanner.step_atValue hword, hend, hlast]

end BindingSync.Yaml
