import BindingSync.Text.Numeral
import BindingSync.Workspace.Error

/-!
# Versions

Versions are ordered by the numbers in their names, so that `2.2` comes before `2.10`; names
with the same numbers are ordered by their characters.  Decimal digits of any script count.
-/

namespace BindingSync.Version

open BindingSync.Text

/-- The numbers in a name, in writing order.  The number whose digits are being read is
given, if there is one. -/
def numbersFrom (open_ : Option Nat) : List Char → List Nat
  | [] => open_.toList
  | c :: rest =>
    match decimalValue? c with
    | some digit => numbersFrom (some (open_.getD 0 * 10 + digit)) rest
    | none => open_.toList ++ numbersFrom none rest

/-- The numbers in a name, in writing order. -/
def numbers (name : String) : List Nat :=
  numbersFrom none name.toList

/-- A version comes before another one. -/
def lt (a b : String) : Bool :=
  numbers a < numbers b || (numbers a = numbers b && a < b)

/-- A version does not come behind another one. -/
def le (a b : String) : Bool :=
  !lt b a

/-- Versions in their order. -/
def sort (names : List String) : List String :=
  names.mergeSort le

/-- The requested version, or the last one if none is requested. -/
def select (versions : List String) (requested : Option WideString) :
    Except WorkspaceError String :=
  match versions.getLast?, requested with
  | none, _ => .error .noVersions
  | some newest, none => .ok newest
  | some _, some requested =>
    match versions.find? fun version => .plain version = requested with
    | some version => .ok version
    | none => .error (.unknownVersion requested versions)

end BindingSync.Version
