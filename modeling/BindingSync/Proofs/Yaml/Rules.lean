import BindingSync.Proofs.Numeral.Layouts
import BindingSync.Proofs.Text.Digits
import BindingSync.Text.Integer
import BindingSync.Yaml.Document

/-!
# Scalars of digits and points

A scalar without quotes gets its type from its form.  What YAML 1.1 says about the form of numbers
comes down to little for scalars of digits with points between them (`dotted`): with more than one
point they are texts.  With one point they are floating-point numbers.  Without any they are
integers, and a zero in front makes them octal ones, unless there is a digit above seven: then they
are texts again.

`ResolvesNumerals` says that a library follows these rules in the value of a mapping with one pair.
-/

namespace BindingSync.Yaml

open BindingSync.Numeral (Decimal)
open BindingSync.Text

/-! ### Digits and points -/

/-- Digits, and more digits behind points. -/
def dotted (first : List Char) (others : List (List Char)) : List Char :=
  first ++ others.flatMap ('.' :: ·)

lemma dotted_nil (first : List Char) : dotted first [] = first :=
  List.append_nil first

lemma dotted_singleton (whole fraction : List Char) :
    dotted whole [fraction] = whole ++ '.' :: fraction := by
  simp [dotted]

/-- A zero is in front of a digit above seven. -/
def IsFalseOctal (digits : List Char) : Prop :=
  digits.head? = some '0' ∧ ∃ c ∈ digits, '7' < c

instance : DecidablePred IsFalseOctal :=
  fun digits => inferInstanceAs (Decidable (_ ∧ ∃ c ∈ digits, '7' < c))

/-! ### Mappings with one pair -/

/-- A text with a key and a scalar without quotes. -/
def pairText (key : String) (scalar : List Char) : String :=
  key ++ ": " ++ String.ofList scalar

/-- The scalar behind the key is read as an atom. -/
def Loads (load : String → Except LoadFailure Document) (key : String) (scalar : List Char)
    (atom : Atom) : Prop :=
  ∃ document, load (pairText key scalar) = .ok document ∧
    document.collection? document.root = some (.mapping [(.text key, .atom atom)])

/-- The scalars of digits and points behind the key are read by the rules of YAML 1.1. -/
structure ResolvesNumerals (load : String → Except LoadFailure Document) (key : String) : Prop where
  /-- Without a superfluous zero in front, digits are a decimal integer. -/
  decimal {digits : List Char} (hdigits : IsDigits digits)
    (hhead : digits.head? = some '0' → digits = ['0'])
    (hshort : digits.length ≤ Integer.maxDigits) :
    Loads load key digits (.int (decimalNumber digits))
  /-- Decimal integers of too many digits are not read. -/
  longDecimal {digits : List Char} (hdigits : IsDigits digits) (hhead : digits.head? ≠ some '0')
    (hlong : Integer.maxDigits < digits.length) :
    load (pairText key digits) = .error (.crash .unacceptable)
  /-- Octal digits behind a zero are an octal integer, however many they are. -/
  octal {digits : List Char} (hdigits : IsDigits digits) (hhead : digits.head? = some '0')
    (hoctal : ¬IsFalseOctal digits) :
    Loads load key digits (.int (Nat.ofDigitChars 8 digits 0))
  /-- Other digits behind a zero are a text. -/
  falseOctal {digits : List Char} (hdigits : IsDigits digits) (hoctal : IsFalseOctal digits) :
    Loads load key digits (.text (String.ofList digits))
  /-- Digits around a point are the floating-point number nearest to the decimal. -/
  pointed {whole fraction : List Char} (hwhole : IsDigits whole) (hfraction : IsDigits fraction) :
    Loads load key (dotted whole [fraction]) (.float (Decimal.ofDigits whole fraction).nearest)
  /-- Digits between more points are a text. -/
  dotted {first second third : List Char} {others : List (List Char)} (hfirst : IsDigits first)
    (hothers : ∀ run ∈ second :: third :: others, IsDigits run) :
    Loads load key (dotted first (second :: third :: others))
      (.text (String.ofList (dotted first (second :: third :: others))))

end BindingSync.Yaml
