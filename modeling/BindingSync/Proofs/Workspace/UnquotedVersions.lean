import BindingSync.Proofs.Workspace.Configurations
import BindingSync.Proofs.Workspace.Versions
import BindingSync.Proofs.Yaml.Numerals

/-!
# Versions without quotes

The name of a version is digits with points between them.  A configuration may name it without
quotes, but then YAML takes most such names for numbers, and the number is written again as the name
of the version.  The name is kept exactly if that gives the same digits (`IsKept`): always with two
points or more; with one point if no digit is superfluous and no shorter digits are read as the same
number; without a point if there is no superfluous zero in front.  A name that is not kept asks for
another version (`version_of_naming`), as `2.10` asks for `2.1`.

All that is assumed of the library that reads the configuration is that it follows the rules of YAML
for such names.
-/

namespace BindingSync.WorkspaceConfig

open BindingSync.Numeral
open BindingSync.Text
open BindingSync.Yaml

/-- The text of a configuration that names a version without quotes. -/
def naming (name : String) : String :=
  "version: " ++ name

/-- The name of a version comes through the reading of a configuration, which takes it for a number
where it can. -/
inductive IsKept : List Char → List (List Char) → Prop
  /-- A whole number, without a superfluous zero in front and not too long to be read. -/
  | whole {digits : List Char} (hhead : digits.head? = some '0' → digits = ['0'])
      (hshort : digits.length ≤ Integer.maxDigits) : IsKept digits []
  /-- No number: the zero of an octal one, in front of a digit that is not octal. -/
  | falseOctal {digits : List Char} (h : IsFalseOctal digits) : IsKept digits []
  /-- Digits around a point as the number that they write is written itself. -/
  | decimal {whole fraction : List Char} (hplain : IsPlain whole fraction)
      (hshortest : (Decimal.ofDigits whole fraction).digits = 0 ∨
        (Decimal.ofDigits whole fraction).IsPositional ∧
          (Decimal.ofDigits whole fraction).IsShortest) : IsKept whole [fraction]
  /-- No number, because of the second point. -/
  | dotted {first second third : List Char} {others : List (List Char)} :
      IsKept first (second :: third :: others)

variable {first word : List Char} {others : List (List Char)} {value : Value} {label : String}

/-! ### The field of the version -/

/-- A mapping that has only a version. -/
lemma ofPairs_version (document : Document) :
    ofPairs label document [(.text "version", value)] =
      (versionField label [(.text "version", value)]).map fun version => { version } := by
  have hdirectory (default : WideString) :
      textField label [(.text "version", value)] "bindings-directory" default = .ok default := rfl
  have hplatform (default : WideString) :
      textField label [(.text "version", value)] "platform" default = .ok default := rfl
  have hfiles (default : List WideString) :
      filesField label document [(.text "version", value)] default = .ok default := rfl
  rw [ofPairs, checkKeys_of_nil rfl]
  simp only [hdirectory, hplatform, hfiles, ok_bind]
  cases versionField label [(.text "version", value)] <;> rfl

section Reading

variable [Loader]

/-- The value of the name decides about the version. -/
lemma parse_of_loads {atom : Atom} (h : Loads Loader.load "version" word atom) :
    parse (naming (String.ofList word)) label =
      (versionField label [(.text "version", .atom atom)]).map fun version => { version } := by
  obtain ⟨document, hdocument, hroot⟩ := h
  exact (parse_of_mapping hdocument hroot).trans (ofPairs_version document)

/-- An integer is written in decimal digits, if they are not too many. -/
lemma parse_of_int {n : Nat} (h : Loads Loader.load "version" word (.int n)) :
    parse (naming (String.ofList word)) label =
      if (Nat.toDigits 10 n).length ≤ Integer.maxDigits then
        .ok { version := some (.plain (String.ofList (Nat.toDigits 10 n))) }
      else .error (.crash .unacceptable) := by
  have hversion : versionField label [(.text "version", .atom (.int n))] =
      (orUnacceptable (Integer.render? n)).bind fun name => .ok (some (.plain name)) := rfl
  have hrender : Integer.render? n = if (Nat.toDigits 10 n).length ≤ Integer.maxDigits then
      some (String.ofList (Nat.toDigits 10 n)) else none := by
    simp only [Integer.render?, Integer.isWritable, decide_eq_true_eq]
    rfl
  rw [parse_of_loads h, hversion, hrender]
  split_ifs <;> rfl

/-! ### What becomes of a name -/

variable (hrules : ResolvesNumerals Loader.load "version")
include hrules

/-- A whole number without a superfluous zero is kept unless it is too long. -/
lemma parse_whole (hfirst : IsDigits first) (hhead : first.head? = some '0' → first = ['0']) :
    parse (naming (String.ofList first)) label =
      if first.length ≤ Integer.maxDigits then
        .ok { version := some (.plain (String.ofList first)) }
      else .error (.crash .unacceptable) := by
  split_ifs with hshort
  · rw [parse_of_int (hrules.decimal hfirst hhead hshort), toDigits_decimalNumber hfirst hhead,
      if_pos hshort]
  · have hlong : Integer.maxDigits < first.length := Nat.not_le.1 hshort
    have hnonzero : first.head? ≠ some '0' := by
      intro hzero
      rw [hhead hzero] at hlong
      exact absurd hlong (by decide)
    have hfailed : Loader.load (naming (String.ofList first)) = .error (.crash .unacceptable) :=
      hrules.longDecimal hfirst hnonzero hlong
    rw [parse, hfailed]

/-- A superfluous zero in front does not come back. -/
lemma parse_octal (hfirst : IsDigits first) (hzero : first.head? = some '0') (hne : first ≠ ['0'])
    (hoctal : ¬IsFalseOctal first) (label : String) :
    (∃ other, other ≠ first ∧ parse (naming (String.ofList first)) label =
      .ok { version := some (.plain (String.ofList other)) }) ∨
    parse (naming (String.ofList first)) label = .error (.crash .unacceptable) := by
  rw [parse_of_int (hrules.octal hfirst hzero hoctal)]
  split_ifs
  · refine .inl ⟨_, fun heq => ?_, rfl⟩
    by_cases hn : Nat.ofDigitChars 8 first 0 = 0
    · rw [hn] at heq
      exact hne heq.symm
    · obtain ⟨c, rest, hdigits, hc⟩ := head_toDigits hn
      rw [heq] at hdigits
      rw [hdigits] at hzero
      exact hc (by simpa using hzero)
  · exact .inr rfl

/-- Digits around a point become the number that they write. -/
lemma parse_decimal {fraction : List Char} (hfirst : IsDigits first)
    (hfraction : IsDigits fraction) :
    parse (naming (String.ofList (dotted first [fraction]))) label =
      .ok { version := some (.plain (Decimal.ofDigits first fraction).nearest.render) } :=
  parse_of_loads (hrules.pointed hfirst hfraction)

/-- With two points or more the name is a text. -/
lemma parse_dotted {second third : List Char} (hfirst : IsDigits first)
    (hothers : ∀ run ∈ second :: third :: others, IsDigits run) :
    parse (naming (String.ofList (dotted first (second :: third :: others)))) label =
      .ok { version :=
        some (.plain (String.ofList (dotted first (second :: third :: others)))) } :=
  parse_of_loads (hrules.dotted hfirst hothers)

/-! ### The names that are kept -/

lemma parse_of_isKept (hfirst : IsDigits first) (hothers : ∀ run ∈ others, IsDigits run)
    (hkept : IsKept first others) : parse (naming (String.ofList (dotted first others))) label =
      .ok { version := some (.plain (String.ofList (dotted first others))) } := by
  cases hkept with
  | whole hhead hshort =>
    rw [dotted_nil, parse_whole hrules hfirst hhead, if_pos hshort]
  | falseOctal hoctal =>
    rw [dotted_nil]
    exact parse_of_loads (hrules.falseOctal hfirst hoctal)
  | @decimal fraction hplain hshortest =>
    have hfraction : IsDigits fraction := hothers fraction (by simp)
    rw [parse_decimal hrules hfirst hfraction, dotted_singleton,
      (render_nearest_iff hfirst hfraction).2 ⟨hplain, hshortest⟩]
  | dotted => exact parse_dotted hrules hfirst hothers

lemma parse_of_not_isKept (hfirst : IsDigits first) (hothers : ∀ run ∈ others, IsDigits run)
    (hkept : ¬IsKept first others) (label : String) :
    (∃ other, other ≠ String.ofList (dotted first others) ∧
      parse (naming (String.ofList (dotted first others))) label =
        .ok { version := some (.plain other) }) ∨
    parse (naming (String.ofList (dotted first others))) label =
      .error (.crash .unacceptable) := by
  rcases others with _ | ⟨fraction, _ | ⟨third, others⟩⟩
  · rw [dotted_nil]
    by_cases hhead : first.head? = some '0' → first = ['0']
    · have hlong : ¬first.length ≤ Integer.maxDigits := fun hshort => hkept (.whole hhead hshort)
      rw [parse_whole hrules hfirst hhead, if_neg hlong]
      exact .inr rfl
    · obtain ⟨hzero, hne⟩ := Classical.not_imp.1 hhead
      have hoctal : ¬IsFalseOctal first := fun h => hkept (.falseOctal h)
      rcases parse_octal hrules hfirst hzero hne hoctal label with ⟨other, hother, hparse⟩ | hparse
      · exact .inl ⟨_, String.ofList_inj.not.2 hother, hparse⟩
      · exact .inr hparse
  · have hfraction : IsDigits fraction := hothers fraction (by simp)
    rw [parse_decimal hrules hfirst hfraction]
    refine .inl ⟨_, fun heq => hkept ?_, rfl⟩
    rw [dotted_singleton, render_nearest_iff hfirst hfraction] at heq
    exact .decimal heq.1 heq.2
  · exact absurd .dotted hkept

/-- What a configuration makes of the name of a version without quotes.  A name that is kept is the
version of the configuration, so the directory of that name is chosen if there is one.  Of any other
name another version is read, and that directory is not chosen, unless the program ends because the
name is a number of too many digits. -/
theorem version_of_naming (hfirst : IsDigits first) (hothers : ∀ run ∈ others, IsDigits run)
    (label : String) :
    (IsKept first others →
      parse (naming (String.ofList (dotted first others))) label =
        .ok { version := some (.plain (String.ofList (dotted first others))) } ∧
      ∀ versions, String.ofList (dotted first others) ∈ versions →
        Version.select versions (some (.plain (String.ofList (dotted first others)))) =
          .ok (String.ofList (dotted first others))) ∧
    (¬IsKept first others →
      parse (naming (String.ofList (dotted first others))) label =
        .error (.crash .unacceptable) ∨
      ∃ other, other ≠ String.ofList (dotted first others) ∧
        parse (naming (String.ofList (dotted first others))) label =
          .ok { version := some (.plain other) } ∧
        ∀ versions, Version.select versions (some (.plain other)) ≠
          .ok (String.ofList (dotted first others))) := by
  refine ⟨fun hkept => ⟨parse_of_isKept hrules hfirst hothers hkept, fun versions hmem =>
    Version.select_some_iff.2 ⟨rfl, hmem⟩⟩, fun hkept => ?_⟩
  rcases parse_of_not_isKept hrules hfirst hothers hkept label with
    ⟨other, hother, hparse⟩ | hparse
  · exact .inr ⟨other, hother, hparse, fun versions hselect =>
      hother (Version.select_some_iff.1 hselect).1.symm⟩
  · exact .inl hparse

end Reading

/-- Up to fifteen digits around a point are kept, if they have the form of a number without an
exponent. -/
lemma isKept_of_few {fraction : List Char} (hplain : IsPlain first fraction)
    (hfew : (Decimal.ofDigits first fraction).digits < 10 ^ 15)
    (hsize : (Decimal.ofDigits first fraction).IsPositional) : IsKept first [fraction] := by
  refine .decimal hplain (or_iff_not_imp_left.2 fun hne => ⟨hsize, ?_⟩)
  have hlow := hsize.lt_power hfew
  have hhigh : (Decimal.ofDigits first fraction).power ≤ 0 := by simp [Decimal.ofDigits]
  exact Decimal.isShortest_of_few hne hfew (by omega) (by omega)

/-- The reader follows the rules in the version of a configuration. -/
lemma resolvesNumerals_version : ResolvesNumerals Loader.load "version" :=
  @resolvesNumerals_load "version".toList (.cons rfl (List.all_eq_true.1 rfl)) (by decide)
    (by decide +kernel)

/-- Four digits around a point are kept, so the version of that name is chosen. -/
theorem version_of_naming_fraction :
    parse (naming "2.204") "<string>" = .ok { version := some (.plain "2.204") } ∧
      Version.select ["2.2", "2.204"] (some (.plain "2.204")) = .ok "2.204" := by
  have hfirst : IsDigits ['2'] := ⟨by simp, List.all_eq_true.1 rfl⟩
  have hfraction : IsDigits ['2', '0', '4'] := ⟨by simp, List.all_eq_true.1 rfl⟩
  have hothers : ∀ run ∈ [['2', '0', '4']], IsDigits run :=
    List.forall_mem_cons.2 ⟨hfraction, List.forall_mem_nil _⟩
  have hsize : (Decimal.ofDigits ['2'] ['2', '0', '4']).IsPositional := by
    have hvalue : (Decimal.ofDigits ['2'] ['2', '0', '4']).value = 2204 * 10 ^ (-3 : ℤ) := rfl
    rw [Decimal.IsPositional, hvalue]
    norm_num
  have hkept : IsKept ['2'] [['2', '0', '4']] :=
    isKept_of_few ⟨hfirst, hfraction, by decide, by decide⟩ (by decide) hsize
  obtain ⟨hparse, hselect⟩ :=
    (version_of_naming resolvesNumerals_version hfirst hothers "<string>").1 hkept
  exact ⟨hparse, hselect ["2.2", "2.204"] (by decide)⟩

/-- A zero at the end is lost, and the version of the other name is chosen. -/
theorem renames_trailingZero :
    parse (naming "2.10") "<string>" = .ok { version := some (.plain "2.1") } ∧
      Version.select ["2.1", "2.10"] (some (.plain "2.1")) = .ok "2.1" := by
  decide +kernel

end BindingSync.WorkspaceConfig
