/-!
# Base 64

Four digits of six bits each stand for three bytes.  Characters that are no digits are passed
over.  The text ends with its last digit, or with the equals signs that fill its last group of
four; a group that is neither full nor filled up is an error.
-/

namespace BindingSync.Text.Base64

/-- The value of a digit. -/
def digit? (c : Char) : Option Nat :=
  if 'A' ≤ c ∧ c ≤ 'Z' then some (c.toNat - 'A'.toNat)
  else if 'a' ≤ c ∧ c ≤ 'z' then some (c.toNat - 'a'.toNat + 26)
  else if '0' ≤ c ∧ c ≤ '9' then some (c.toNat - '0'.toNat + 52)
  else if c = '+' then some 62
  else if c = '/' then some 63
  else none

/-- The bytes from some place of a group on: how many digits of the group were read, the bits of
them that are left, and how many equals signs stand behind them. -/
def decodeFrom : Nat → Nat → Nat → List Char → Option (List UInt8)
  | count, _, _, [] => if count = 0 then some [] else none
  | count, bits, signs, c :: rest =>
    if c = '=' then
      if 2 ≤ count then
        if 4 ≤ count + signs + 1 then some [] else decodeFrom count bits (signs + 1) rest
      else decodeFrom count bits signs rest
    else
      match digit? c with
      | none => decodeFrom count bits signs rest
      | some digit =>
        let value := bits * 64 + digit
        match count with
        | 0 => decodeFrom 1 value 0 rest
        | 1 => (decodeFrom 2 (value % 16) 0 rest).map ((value / 16).toUInt8 :: ·)
        | 2 => (decodeFrom 3 (value % 4) 0 rest).map ((value / 4).toUInt8 :: ·)
        | _ => (decodeFrom 0 0 0 rest).map (value.toUInt8 :: ·)

/-- The bytes that a text stands for. -/
def decode? (text : List Char) : Option (List UInt8) :=
  decodeFrom 0 0 0 text

end BindingSync.Text.Base64
