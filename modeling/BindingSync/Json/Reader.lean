import BindingSync.Json.Basic
import BindingSync.Text.Integer

/-!
# Reading JSON

The reader takes one value off the front of a text and reports the first fault that it meets.
A fault is placed by the number of characters that are left from its place on, so the reader
itself counts nothing; the place in the whole text follows from the length of that text.

Strings may not hold control characters.  A number is the longest prefix that has the form of
a number, and what stands behind it is not its business.  Integers of too many digits are not
read.
-/

namespace BindingSync.Json

open BindingSync.Text
open BindingSync.Numeral (Binary64)

/-- What is wrong with a text. -/
inductive Fault where
  | value | propertyName | colon | comma | extraData
  | openString | escape | unicodeEscape | controlCharacter | byteOrderMark
  | longInteger
deriving DecidableEq, Repr, Inhabited

namespace Fault

/-- The wording of a fault. -/
def message : Fault → String
  | value => "Expecting value"
  | propertyName => "Expecting property name enclosed in double quotes"
  | colon => "Expecting ':' delimiter"
  | comma => "Expecting ',' delimiter"
  | extraData => "Extra data"
  | openString => "Unterminated string starting at"
  | escape => "Invalid \\escape"
  | unicodeEscape => "Invalid \\uXXXX escape"
  | controlCharacter => "Invalid control character at"
  | byteOrderMark => "Unexpected UTF-8 BOM (decode using utf-8-sig)"
  | longInteger => "Too many digits"

end Fault

/-- A fault with the number of characters from its place to the end of the text. -/
structure SyntaxError where
  fault : Fault
  left : Nat
deriving DecidableEq, Repr, Inhabited

namespace SyntaxError

/-- The wording of an error in the given text: the line and the column count from one, the
characters from zero. -/
def message (error : SyntaxError) (text : List Char) : String :=
  let offset := text.length - error.left
  let before := text.take offset
  let line := before.count '\n' + 1
  let column := (before.reverse.takeWhile (· != '\n')).length + 1
  s!"{error.fault.message}: line {line} column {column} (char {offset})"

end SyntaxError

namespace Reader

/-- What reading something off the front of a text gives. -/
abbrev Result (α : Type) := Except SyntaxError (α × List Char)

/-- A fault at the front of what is left. -/
def fault {α : Type} (fault : Fault) (rest : List Char) : Except SyntaxError α :=
  .error ⟨fault, rest.length⟩

/-- The characters that may stand between the parts of a value. -/
def isBlank (c : Char) : Bool :=
  c = ' ' || c = '\t' || c = '\n' || c = '\r'

/-- What is left behind blanks. -/
def skipBlanks (text : List Char) : List Char :=
  text.dropWhile isBlank

/-- What is left behind a word at the front. -/
def word? : List Char → List Char → Option (List Char)
  | [], text => some text
  | _ :: _, [] => none
  | c :: word, d :: text => if c = d then word? word text else none

/-! ### Strings -/

/-- The character that a short escape stands for. -/
def escaped? : Char → Option Char
  | '"' => some '"'
  | '\\' => some '\\'
  | '/' => some '/'
  | 'b' => some '\x08'
  | 'f' => some '\x0c'
  | 'n' => some '\n'
  | 'r' => some '\r'
  | 't' => some '\t'
  | _ => none

/-- The unit written by the four digits at the front, and what follows. -/
def unit? : List Char → Option (Nat × List Char)
  | a :: b :: c :: d :: rest => (hexNumber? [a, b, c, d]).map fun unit => (unit, rest)
  | _ => none

/-- The first unit of a surrogate pair. -/
def isHighSurrogate (unit : Nat) : Bool :=
  0xd800 ≤ unit && unit < 0xdc00

/-- The second unit of a surrogate pair. -/
def isLowSurrogate (unit : Nat) : Bool :=
  0xdc00 ≤ unit && unit < 0xe000

/-- The character of a surrogate pair. -/
def charOfPair (high low : Nat) : Char :=
  Char.ofNat (0x10000 + (high - 0xd800) * 0x400 + (low - 0xdc00))

/-- The code point of a unicode escape, behind its `\u`; the digits are not the last characters
of the text.  A unit of a surrogate pair that stands alone is a code point of its own. -/
def unicodeEscape (text : List Char) : Result Point :=
  match unit? text with
  | none => .error ⟨.unicodeEscape, text.length + 1⟩
  | some (_, []) => .error ⟨.unicodeEscape, text.length + 1⟩
  | some (unit, rest) =>
    match isHighSurrogate unit, rest with
    | true, '\\' :: 'u' :: more =>
      if (more.drop 4).isEmpty then .ok (.ofNat unit, rest)
      else
        match unit? more with
        | none => .error ⟨.unicodeEscape, more.length + 1⟩
        | some (low, rest') =>
          if isLowSurrogate low then .ok (.char (charOfPair unit low), rest')
          else .ok (.ofNat unit, rest)
    | _, _ => .ok (.ofNat unit, rest)

/-- The rest of a string up to its closing quote, after the code points already read, the last
one first.  `start` is the text from the opening quote on. -/
def stringFrom (start : List Char) : Nat → List Point → List Char →
    Except SyntaxError (WideString × List Char)
  | 0, _, _ => fault .openString start
  | fuel + 1, read, text =>
    match text with
    | [] => fault .openString start
    | '"' :: rest => .ok (.ofPoints read.reverse, rest)
    | '\\' :: [] => fault .openString start
    | '\\' :: 'u' :: rest => do
      let (point, rest) ← unicodeEscape rest
      stringFrom start fuel (point :: read) rest
    | '\\' :: c :: rest =>
      match escaped? c with
      | some d => stringFrom start fuel (.char d :: read) rest
      | none => fault .escape text
    | c :: rest =>
      if c.toNat < 32 then fault .controlCharacter text
      else stringFrom start fuel (.char c :: read) rest

/-- A string with its quotes; `text` starts with the opening one.  The fuel is at least the
length of the text. -/
def string (fuel : Nat) (text : List Char) : Result WideString :=
  stringFrom text fuel [] text.tail

/-! ### Numbers -/

/-- The digits at the front, and what follows. -/
def digits (text : List Char) : List Char × List Char :=
  (text.takeWhile Char.isDigit, text.dropWhile Char.isDigit)

/-- The whole part of a number: a zero, or digits that do not start with one. -/
def whole? : List Char → Option (List Char × List Char)
  | '0' :: rest => some (['0'], rest)
  | text =>
    match digits text with
    | ([], _) => none
    | found => some found

/-- The fraction behind a point, if there is one. -/
def fraction : List Char → List Char × List Char
  | '.' :: rest =>
    match digits rest with
    | ([], _) => ([], '.' :: rest)
    | found => found
  | text => ([], text)

/-- The exponent, if there is one. -/
def exponent? (text : List Char) : Option (Int × List Char) :=
  match text with
  | c :: rest =>
    if c = 'e' ∨ c = 'E' then
      let (negative, rest) := match rest with
        | '-' :: rest => (true, rest)
        | '+' :: rest => (false, rest)
        | rest => (false, rest)
      match digits rest with
      | ([], _) => none
      | (found, last) =>
        some (if negative then -(decimalNumber found : Int) else decimalNumber found, last)
    else none
  | [] => none

/-- The number at the front. -/
def number (text : List Char) : Result Json :=
  let (negative, rest) := match text with
    | '-' :: rest => (true, rest)
    | rest => (false, rest)
  match whole? rest with
  | none => fault .value text
  | some (whole, rest) =>
    let (fraction, rest) := fraction rest
    match fraction, exponent? rest with
    | [], none =>
      if Integer.maxDigits < whole.length then fault .longInteger text
      else
        let value := decimalNumber whole
        .ok (.int (if negative then -(value : Int) else value), rest)
    | fraction, none =>
      let value := decimalNumber (whole ++ fraction)
      .ok (.float (.ofDecimal negative value (-fraction.length)), rest)
    | fraction, some (power, rest) =>
      let value := decimalNumber (whole ++ fraction)
      .ok (.float (.ofDecimal negative value (power - fraction.length)), rest)

/-! ### Values -/

/-- The values that are written as words. -/
def words : List (String × Json) :=
  [("null", .null), ("true", .bool true), ("false", .bool false), ("NaN", .float .nan),
    ("Infinity", .float (.infinite false)), ("-Infinity", .float (.infinite true))]

/-- A value that is a word or a number. -/
def plain (text : List Char) : Result Json :=
  match words.findSome? fun (name, value) => (word? name.toList text).map fun rest => (value, rest)
  with
  | some found => .ok found
  | none => number text

mutual

/-- The value at the front. -/
def value : Nat → List Char → Result Json
  | 0, text => fault .value text
  | fuel + 1, text =>
    match text with
    | '"' :: _ => (string fuel text).map fun (s, rest) => (.string s, rest)
    | '[' :: rest =>
      match skipBlanks rest with
      | ']' :: rest => .ok (.array [], rest)
      | rest => (items fuel rest).map fun (found, rest) => (.array found, rest)
    | '\x7b' :: rest =>
      match skipBlanks rest with
      | '\x7d' :: rest => .ok (.object [], rest)
      | rest => (fields fuel [] rest).map fun (found, rest) => (.object found, rest)
    | text => plain text

/-- The items of an array up to its end. -/
def items : Nat → List Char → Except SyntaxError (List Json × List Char)
  | 0, text => fault .value text
  | fuel + 1, text => do
    let (item, rest) ← value fuel text
    match skipBlanks rest with
    | ']' :: rest => .ok ([item], rest)
    | ',' :: rest => do
      let (others, rest) ← items fuel (skipBlanks rest)
      .ok (item :: others, rest)
    | rest => fault .comma rest

/-- The fields of an object up to its end, added to those already read. -/
def fields : Nat → List (WideString × Json) → List Char →
    Except SyntaxError (List (WideString × Json) × List Char)
  | 0, _, text => fault .value text
  | fuel + 1, read, text =>
    match text with
    | '"' :: _ => do
      let (name, rest) ← string fuel text
      match skipBlanks rest with
      | ':' :: rest => do
        let (item, rest) ← value fuel (skipBlanks rest)
        let read := setField read name item
        match skipBlanks rest with
        | '\x7d' :: rest => .ok (read, rest)
        | ',' :: rest => fields fuel read (skipBlanks rest)
        | rest => fault .comma rest
      | rest => fault .colon rest
    | text => fault .propertyName text

end

/-- The value that a text holds, with blanks around it. -/
def document (text : List Char) : Except SyntaxError Json :=
  match text with
  | '\uFEFF' :: _ => fault .byteOrderMark text
  | text => do
    let (found, rest) ← value (2 * text.length + 1) (skipBlanks text)
    match skipBlanks rest with
    | [] => .ok found
    | rest => fault .extraData rest

end Reader

/-- The value that a text holds. -/
def parse (text : String) : Except SyntaxError Json :=
  Reader.document text.toList

end BindingSync.Json
