import BindingSync.Text.Digits
import BindingSync.Text.WideString
import BindingSync.Yaml.Error

/-!
# Reading scalars

A scalar is written plainly, between single or double quotes, or as a block of lines.  In all
of these but the literal block, a single line end inside the scalar is read as a space, and of
several line ends the first one is dropped.  Each reader gets a bound on its steps; the length
of the text that is left is always enough.
-/

namespace BindingSync.Yaml.Scalar

open BindingSync.Text (Point hexNumber?)

/-- What reading a scalar gives: its content and the text behind it. -/
abbrev Result := Except Error (List Char × Text)

/-- A fault at the front of a text. -/
def fault {α : Type} (fault : Fault) (text : Text) : Except Error α :=
  .error (.fault fault text.place)

/-- The content of a line end and of those behind it. -/
def folded (lineBreak : Char) (breaks : List Char) : List Char :=
  if lineBreak ≠ '\n' then lineBreak :: breaks
  else if breaks.isEmpty then [' ']
  else breaks

/-! ### Plain scalars -/

/-- The characters that end a plain scalar inside a flow collection. -/
def isFlowMark (c : Char) : Bool :=
  c = ',' || c = '?' || c = '[' || c = ']' || c = '\x7b' || c = '\x7d'

/-- The word at the front of a plain scalar. -/
def plainWord (inFlow : Bool) : List Char → List Char
  | [] => []
  | c :: rest =>
    let ends := isSpace c ||
      (c = ':' && (endsWord rest.head? ||
        (inFlow && rest.head?.any fun d => isFlowMark d && d != '?'))) ||
      (inFlow && isFlowMark c)
    if ends then [] else c :: plainWord inFlow rest

/-- The line ends behind the first one between two words; none if a line separates
documents. -/
def plainBreaks : Nat → Text → Option (List Char × Text)
  | 0, text => some ([], text)
  | steps + 1, text =>
    if text.peek = some ' ' then plainBreaks steps text.next
    else
      match text.lineBreak? with
      | none => some ([], text)
      | some (c, text) =>
        if text.hasDocumentMark then none
        else (plainBreaks steps text).map fun (breaks, text) => (c :: breaks, text)

/-- What stands between two words of a plain scalar. -/
structure Gap where
  /-- The content of the gap; a scalar without any does not go on. -/
  content : List Char
  text : Text
  /-- The gap goes over a line end. -/
  hasBreak : Bool

/-- The gap behind a word. -/
def plainGap (text : Text) : Gap :=
  let (spaces, text) := text.span (· = ' ')
  match text.lineBreak? with
  | none => ⟨spaces, text, false⟩
  | some (lineBreak, text) =>
    if text.hasDocumentMark then ⟨[], text, true⟩
    else
      match plainBreaks (text.rest.length + 1) text with
      | none => ⟨[], text.dropWhile fun c => c = ' ' || isBreak c, true⟩
      | some (breaks, text) => ⟨folded lineBreak breaks, text, true⟩

/-- A plain scalar that was read, and whether a key may follow. -/
structure Plain where
  content : List Char
  text : Text
  /-- The last gap went over a line end. -/
  hasBreak : Bool

/-- The words of a plain scalar from a gap on. -/
def plainFrom (inFlow : Bool) (indent : Int) : Nat → Gap → Plain
  | 0, gap => ⟨[], gap.text, gap.hasBreak⟩
  | steps + 1, gap =>
    if gap.text.peek = some '#' then ⟨[], gap.text, gap.hasBreak⟩
    else
      let word := plainWord inFlow gap.text.rest
      if word.isEmpty then ⟨[], gap.text, gap.hasBreak⟩
      else
        let next := plainGap (gap.text.skip word.length)
        let start := gap.content ++ word
        if next.content.isEmpty || next.text.peek = some '#' ||
            (!inFlow && next.text.place.column < indent) then
          ⟨start, next.text, next.hasBreak⟩
        else
          let others := plainFrom inFlow indent steps next
          { others with content := start ++ others.content }

/-- The plain scalar at the front.  Outside of flow collections its lines are indented. -/
def plain (inFlow : Bool) (indent : Int) (text : Text) : Plain :=
  plainFrom inFlow indent (text.rest.length + 1) ⟨[], text, false⟩

/-! ### Quoted scalars -/

/-- The characters of the short escapes. -/
def escapes : List (Char × Char) :=
  [('0', '\x00'), ('a', '\x07'), ('b', '\x08'), ('t', '\t'), ('\t', '\t'), ('n', '\n'),
    ('v', '\x0b'), ('f', '\x0c'), ('r', '\r'), ('e', '\x1b'), (' ', ' '), ('"', '"'),
    ('\\', '\\'), ('/', '/'), ('N', '\x85'), ('_', '\xa0'), ('L', '\u2028'), ('P', '\u2029')]

/-- The number of digits of the escapes by code point. -/
def pointEscapes : List (Char × Nat) :=
  [('x', 2), ('u', 4), ('U', 8)]

/-- The code point of a number; there is none behind the last plane. -/
def pointOf (number : Nat) : Except Error Point :=
  if 0x7fffffff < number then .error (.crash .overflow)
  else if 0x10ffff < number then .error (.crash .unacceptable)
  else .ok (.ofNat number)

/-- The line ends between the lines of a quoted scalar. -/
def quotedBreaks : Nat → Text → Result
  | 0, text => .ok ([], text)
  | steps + 1, text =>
    if text.hasDocumentMark then fault .separatorInScalar text
    else
      let text := text.dropWhile fun c => c = ' ' || c = '\t'
      match text.lineBreak? with
      | none => .ok ([], text)
      | some (c, text) => do
        let (breaks, text) ← quotedBreaks steps text
        return (c :: breaks, text)

/-- The blanks and line ends at the front of a quoted scalar. -/
def quotedGap (text : Text) : Result := do
  let (blanks, text) := text.span fun c => c = ' ' || c = '\t'
  match text.lineBreak? with
  | some (lineBreak, text) => do
    let (breaks, text) ← quotedBreaks (text.rest.length + 1) text
    return (folded lineBreak breaks, text)
  | none => if text.rest.isEmpty then fault .openScalar text else return (blanks, text)

/-- What reading a quoted scalar gives: its code points and the text behind it. -/
abbrev QuotedResult := Except Error (List Point × Text)

/-- The content of an escape, behind its backslash. -/
def escape (text : Text) : QuotedResult :=
  match text.peek with
  | none => fault .unknownEscape text
  | some c =>
    match escapes.lookup c, pointEscapes.lookup c with
    | some d, _ => .ok ([.char d], text.next)
    | none, some count =>
      match hexNumber? (text.next.rest.take count) with
      | some point =>
        if (text.next.rest.take count).length = count then do
          return ([← pointOf point], text.next.skip count)
        else fault .badEscape text
      | none => fault .badEscape text
    | none, none =>
      match text.lineBreak? with
      | some (_, text) => do
        let (breaks, text) ← quotedBreaks (text.rest.length + 1) text
        return (breaks.map .char, text)
      | none => fault .unknownEscape text

/-- The rest of a quoted scalar up to its closing quote. -/
def quotedFrom (quote : Char) : Nat → Text → QuotedResult
  | 0, text => fault .openScalar text
  | steps + 1, text =>
    match text.rest with
    | [] => fault .openScalar text
    | c :: rest =>
      if c = quote then
        if quote = '\'' ∧ rest.head? = some '\'' then do
          let (content, last) ← quotedFrom quote steps (text.skip 2)
          return (.char '\'' :: content, last)
        else .ok ([], text.next)
      else if c = '\\' ∧ quote = '"' then do
        let (start, text) ← escape text.next
        let (content, last) ← quotedFrom quote steps text
        return (start ++ content, last)
      else if isSpace c then do
        let (gap, text) ← quotedGap text
        let (content, last) ← quotedFrom quote steps text
        return (gap.map .char ++ content, last)
      else do
        let (content, last) ← quotedFrom quote steps text.next
        return (.char c :: content, last)

/-- The quoted scalar at the front, which starts with its quote. -/
def quoted (quote : Char) (text : Text) : QuotedResult :=
  quotedFrom quote (text.rest.length + 1) text.next

/-! ### Block scalars -/

/-- What becomes of the line ends behind a block. -/
inductive Chomping where
  | clip | strip | keep
deriving DecidableEq, Repr

/-- The chomping mark at the front. -/
def chomping (text : Text) : Option (Chomping × Text) :=
  match text.peek with
  | some '+' => some (.keep, text.next)
  | some '-' => some (.strip, text.next)
  | _ => none

/-- The indentation mark at the front. -/
def increment (text : Text) : Except Error (Option Nat × Text) :=
  match text.peek with
  | some c =>
    if c = '0' then fault .badBlockHeader text
    else if c.isDigit then .ok (some (c.toNat - '0'.toNat), text.next)
    else .ok (none, text)
  | none => .ok (none, text)

/-- The header of a block: how it ends, how deep it is, and the text behind its line. -/
def blockHeader (text : Text) : Except Error (Chomping × Option Nat × Text) := do
  let (mark, depth, text) ←
    match chomping text with
    | some (mark, text) => do
      let (depth, text) ← increment text
      pure (mark, depth, text)
    | none => do
      let (depth, text) ← increment text
      match depth, chomping text with
      | some _, some (mark, text) => pure (mark, depth, text)
      | _, _ => pure (.clip, depth, text)
  if !(text.peek = some ' ' || endsLine text.peek) then fault .badBlockHeader text
  match text.endOfLine? with
  | some text => return (mark, depth, text)
  | none => fault .badBlockHeader text

/-- The empty lines in front of a block and the greatest column among them. -/
def blockStart : Nat → Text → List Char × Nat × Text
  | 0, text => ([], 0, text)
  | steps + 1, text =>
    if text.peek = some ' ' then
      let (breaks, depth, last) := blockStart steps text.next
      (breaks, max depth text.next.place.column, last)
    else
      match text.lineBreak? with
      | none => ([], 0, text)
      | some (c, text) =>
        let (breaks, depth, last) := blockStart steps text
        (c :: breaks, depth, last)

/-- The text behind the indentation of a line. -/
def skipIndent (indent : Int) : Nat → Text → Text
  | 0, text => text
  | steps + 1, text =>
    if text.place.column < indent ∧ text.peek = some ' ' then skipIndent indent steps text.next
    else text

/-- The empty lines between two lines of a block. -/
def blockBreaks (indent : Int) : Nat → Text → List Char × Text
  | 0, text => ([], text)
  | steps + 1, text =>
    let text := skipIndent indent text.rest.length text
    match text.lineBreak? with
    | none => ([], text)
    | some (c, text) =>
      let (breaks, last) := blockBreaks indent steps text
      (c :: breaks, last)

/-- The lines of a block, behind the empty lines in front of each. -/
def blockLines (isFolded : Bool) (mark : Chomping) (indent : Int) :
    Nat → List Char → Text → List Char × Text
  | 0, breaks, text => (breaks, text)
  | steps + 1, breaks, text =>
    let startsBlank := text.peek.any fun c => c = ' ' || c = '\t'
    let (line, text) := text.span fun c => !isBreak c
    let (lineBreak, text) := match text.lineBreak? with
      | some (c, text) => ([c], text)
      | none => ([], text)
    let (nextBreaks, text) := blockBreaks indent (text.rest.length + 1) text
    if text.place.column = indent ∧ !text.rest.isEmpty then
      let joint :=
        if isFolded ∧ lineBreak = ['\n'] ∧ !startsBlank ∧
            !(text.peek.any fun c => c = ' ' || c = '\t') then
          if nextBreaks.isEmpty then [' '] else []
        else lineBreak
      let (content, last) := blockLines isFolded mark indent steps nextBreaks text
      (breaks ++ line ++ joint ++ content, last)
    else
      let tail := match mark with
        | .strip => []
        | .clip => lineBreak
        | .keep => lineBreak ++ nextBreaks
      (breaks ++ line ++ tail, text)

/-- The block scalar at the front, which starts with its mark. -/
def block (isFolded : Bool) (indent : Int) (text : Text) : Result := do
  let (mark, depth, text) ← blockHeader text.next
  let least := max (indent + 1) 1
  let (indent, breaks, text) := match depth with
    | none =>
      let (breaks, depth, text) := blockStart (text.rest.length + 1) text
      (max least depth, breaks, text)
    | some depth =>
      let indent := least + depth - 1
      let (breaks, text) := blockBreaks indent (text.rest.length + 1) text
      (indent, breaks, text)
  if text.place.column = indent ∧ !text.rest.isEmpty then
    return blockLines isFolded mark indent (text.rest.length + 1) breaks text
  else return (if mark = .keep then breaks else [], text)

end BindingSync.Yaml.Scalar
