import BindingSync.Text.Integer
import BindingSync.Yaml.Scalar

/-!
# Tokens of a YAML text

Indentation is turned into tokens of its own: a block collection starts where the column grows
and ends where it shrinks.  A key is only known to be one when its colon is found, so a scalar
that may be a key is kept in mind, and the token for the key is put in front of it later.
Such a key has to be on one line with its colon, and not far from it.

A text that cannot be read to its end still has the tokens in front of the first one that may
be a key, because a reader of tokens can take those before the rest of the text is looked at.
-/

namespace BindingSync.Yaml

open BindingSync.Text (WideString hexNumber?)
open BindingSync.Text.Integer (digits?)

/-- A line in front of a document that says how to read it. -/
inductive Directive where
  | version (major minor : Nat)
  /-- A handle for the beginning of tags. -/
  | handle (name start : String)
  /-- A directive with another name, which says nothing. -/
  | other
deriving DecidableEq, Repr, Inhabited

/-- What a token is. -/
inductive TokenKind where
  | directive (directive : Directive)
  | documentStart | documentEnd
  | sequenceStart | mappingStart | blockEnd
  | flowSequenceStart | flowSequenceEnd | flowMappingStart | flowMappingEnd
  | entry | flowEntry | key | value
  | alias (name : String)
  | anchor (name : String)
  /-- A tag, with its handle if it has one. -/
  | tag (handle : Option String) (suffix : String)
  /-- A scalar; only plain ones may stand for something else than a text. -/
  | scalar (content : WideString) (isPlain : Bool)
deriving DecidableEq, Repr, Inhabited

/-- A token and the place where it starts. -/
structure Token where
  kind : TokenKind
  place : Place
deriving DecidableEq, Repr, Inhabited

/-- A token that is a key if a colon follows. -/
structure PossibleKey where
  /-- The number of tokens in front of it. -/
  index : Nat
  /-- Nothing else may stand at its place. -/
  isRequired : Bool
  place : Place
deriving DecidableEq, Repr

/-- What a scanner has read and what it keeps in mind. -/
structure Scanner where
  text : Text
  tokens : List Token := []
  indent : Int := -1
  /-- The indents of the collections around the current one. -/
  indents : List Int := []
  /-- How many flow collections are open. -/
  flow : Int := 0
  /-- A key may start here. -/
  allowsKey : Bool := true
  /-- The possible keys by the flow level that they stand on. -/
  keys : List (Int × PossibleKey) := []
deriving Repr

namespace Scanner

/-- A step of a scanner. -/
abbrev Step := Except Error Scanner

/-- A fault at the place that a scanner has reached. -/
def fault {α : Type} (fault : Fault) (scanner : Scanner) : Except Error α :=
  .error (.fault fault scanner.text.place)

/-- No flow collection is open. -/
def inBlock (scanner : Scanner) : Bool :=
  scanner.flow = 0

/-- The scanner with one more token at its place. -/
def push (scanner : Scanner) (kind : TokenKind) : Scanner :=
  { scanner with tokens := scanner.tokens ++ [⟨kind, scanner.text.place⟩] }

/-- The scanner with a token in front of those from an index on. -/
def pushAt (scanner : Scanner) (index : Nat) (kind : TokenKind) (place : Place) : Scanner :=
  { scanner with
    tokens := scanner.tokens.take index ++ ⟨kind, place⟩ :: scanner.tokens.drop index }

/-- The scanner with a token of a number of characters. -/
def take (scanner : Scanner) (kind : TokenKind) (count : Nat) : Scanner :=
  let scanner := scanner.push kind
  { scanner with text := scanner.text.skip count }

/-- Whether a key may start behind the next token. -/
def allowKey (scanner : Scanner) (allowsKey : Bool) : Scanner :=
  { scanner with allowsKey }

/-! ### Blanks -/

/-- The scanner behind blanks, comments and line ends, as far as the steps go. -/
def skipBlanks : Nat → Scanner → Scanner
  | 0, scanner => scanner
  | steps + 1, scanner =>
    let text := scanner.text.skipSpaces
    let text := if text.peek = some '#' then text.skipLine else text
    match text.lineBreak? with
    | some (_, text) =>
      skipBlanks steps { scanner with text, allowsKey := scanner.allowsKey || scanner.inBlock }
    | none => { scanner with text }

/-! ### Possible keys -/

/-- A key is too far away from the place that is reached. -/
def isStale (here : Place) (key : PossibleKey) : Bool :=
  key.place.line ≠ here.line || 1024 < here.index - key.place.index

/-- The scanner without the keys that are too far away. -/
def dropStaleKeys (scanner : Scanner) : Step :=
  let here := scanner.text.place
  if scanner.keys.any fun (_, key) => isStale here key && key.isRequired then
    fault .keyWithoutValue scanner
  else .ok { scanner with keys := scanner.keys.filter fun (_, key) => !isStale here key }

/-- The scanner without a key on its level. -/
def dropKey (scanner : Scanner) : Step :=
  match scanner.keys.lookup scanner.flow with
  | some key =>
    if key.isRequired then fault .keyWithoutValue scanner
    else .ok { scanner with keys := scanner.keys.filter (·.1 != scanner.flow) }
  | none => .ok scanner

/-- The scanner that keeps the next token in mind as a key. -/
def saveKey (scanner : Scanner) : Step := do
  if !scanner.allowsKey then return scanner
  let isRequired := scanner.inBlock && scanner.indent = scanner.text.place.column
  let scanner ← dropKey scanner
  let key := ⟨scanner.tokens.length, isRequired, scanner.text.place⟩
  return { scanner with keys := (scanner.flow, key) :: scanner.keys }

/-! ### Indentation -/

/-- Ends the block collections that are deeper than a column. -/
def unwindTo (column : Int) : List Int → Scanner → Scanner
  | [], scanner => scanner
  | outer :: rest, scanner =>
    if column < scanner.indent then
      let scanner := scanner.push .blockEnd
      unwindTo column rest { scanner with indent := outer, indents := rest }
    else scanner

/-- Ends the block collections that are deeper than a column, outside of flow collections. -/
def unwind (scanner : Scanner) (column : Int) : Scanner :=
  if scanner.inBlock then unwindTo column scanner.indents scanner else scanner

/-- Starts a block collection at a column, if it is deeper; its token goes to an index. -/
def startBlock (scanner : Scanner) (column : Nat) (index : Nat) (kind : TokenKind)
    (place : Place) : Scanner :=
  if scanner.indent < column then
    { scanner.pushAt index kind place with
      indent := column, indents := scanner.indent :: scanner.indents }
  else scanner

/-- Starts a block collection at the place that is reached. -/
def startBlockHere (scanner : Scanner) (kind : TokenKind) : Scanner :=
  scanner.startBlock scanner.text.place.column scanner.tokens.length kind scanner.text.place

/-! ### Tokens -/

/-- A mark that separates documents. -/
def documentMark (scanner : Scanner) (kind : TokenKind) : Step := do
  let scanner ← dropKey (scanner.unwind (-1))
  return (scanner.take kind 3).allowKey false

/-- A letter, a digit, a hyphen or an underscore. -/
def isNameChar (c : Char) : Bool :=
  c.isAlphanum || c = '-' || c = '_'

/-- A fault at the front of a text. -/
def faultAt {α : Type} (fault : Fault) (text : Text) : Except Error α :=
  .error (.fault fault text.place)

/-- The text behind a character, which has to be there. -/
def expect (c : Char) (fault : Fault) (text : Text) : Except Error Text :=
  if text.peek = some c then .ok text.next else faultAt fault text

/-! ### Tags and directives -/

/-- The handle of a tag: an exclamation mark, or a name between two of them. -/
def tagHandle (text : Text) : Except Error (List Char × Text) := do
  let (name, rest) := (← expect '!' .badTag text).span isNameChar
  if rest.peek = some '!' then return ('!' :: name ++ ['!'], rest.next)
  else if name.isEmpty && rest.peek = some ' ' then return (['!'], rest)
  else faultAt .badTag rest

/-- The bytes written by the escapes at the front, as far as the steps go. -/
def tagBytes : Nat → Text → Except Error (List UInt8 × Text)
  | 0, text => .ok ([], text)
  | steps + 1, text =>
    if text.peek = some '%' then
      match text.next.rest with
      | a :: b :: _ =>
        match hexNumber? [a, b] with
        | some byte => do
          let (bytes, text) ← tagBytes steps (text.skip 3)
          return (byte.toUInt8 :: bytes, text)
        | none => faultAt .badTagEscape text
      | _ => faultAt .badTagEscape text
    else .ok ([], text)

/-- A character of a tag that stands for itself. -/
def isTagChar (c : Char) : Bool :=
  c.isAlphanum || "-;/?:@&=+$,_.!~*'()[]".toList.contains c

/-- The characters of a tag at the front, as far as the steps go. -/
def tagChars : Nat → Text → Except Error (List Char × Text)
  | 0, text => .ok ([], text)
  | steps + 1, text => do
    let (start, text) := text.span isTagChar
    if text.peek = some '%' then
      let (bytes, text') ← tagBytes (text.rest.length + 1) text
      match String.fromUTF8? ⟨bytes.toArray⟩ with
      | some decoded => do
        let (others, text') ← tagChars steps text'
        return (start ++ decoded.toList ++ others, text')
      | none => faultAt .badTagEscape text
    else return (start, text)

/-- A tag, or a part of one, which is not empty. -/
def tagPart (text : Text) : Except Error (List Char × Text) := do
  let (chars, rest) ← tagChars (text.rest.length + 1) text
  if chars.isEmpty then faultAt .badTag text else return (chars, rest)

/-- The parts of a tag, its handle and the rest of it, and the text behind it.  The rest is
given alone in angle brackets; an exclamation mark alone is a tag of its own. -/
def tagParts (text : Text) : Except Error (Option (List Char) × List Char × Text) := do
  let start := text.next
  if start.peek = some '<' then
    let (chars, rest) ← tagPart start.next
    return (none, chars, ← expect '>' .badTag rest)
  else if endsWord start.peek then return (none, ['!'], start)
  else if (start.rest.takeWhile fun c => !endsTag (some c)).contains '!' then
    let (handle, rest) ← tagHandle text
    let (chars, rest) ← tagPart rest
    return (some handle, chars, rest)
  else
    let (chars, rest) ← tagPart start
    return (some ['!'], chars, rest)

/-- A number of a version. -/
def versionNumber (text : Text) : Except Error (Nat × Text) :=
  let (digits, rest) := text.span Char.isDigit
  if digits.isEmpty then faultAt .badDirective text
  else
    match digits? 10 digits with
    | some number => .ok (number, rest)
    | none => .error (.crash .unacceptable)

/-- The numbers of a version. -/
def version (text : Text) : Except Error (Directive × Text) := do
  let (major, text) ← versionNumber text.skipSpaces
  let (minor, text) ← versionNumber (← expect '.' .badDirective text)
  if endsTag text.peek then return (.version major minor, text) else faultAt .badDirective text

/-- A handle and the beginning of tags that it is short for. -/
def handle (text : Text) : Except Error (Directive × Text) := do
  let (name, text) ← tagHandle text.skipSpaces
  if text.peek ≠ some ' ' then faultAt .badDirective text
  let (start, text) ← tagPart text.skipSpaces
  if endsTag text.peek then
    return (.handle (String.ofList name) (String.ofList start), text)
  else faultAt .badDirective text

/-- A directive: a line that starts with a percent sign and a name. -/
def directive (scanner : Scanner) : Step := do
  let scanner ← dropKey (scanner.unwind (-1))
  let (name, text) := scanner.text.next.span isNameChar
  if name.isEmpty || !endsTag text.peek then faultAt .badDirective text
  let (found, text) ← match String.ofList name with
    | "YAML" => version text
    | "TAG" => handle text
    | _ => pure (.other, text.skipLine)
  match text.endOfLine? with
  | some text => return { scanner.push (.directive found) with text, allowsKey := false }
  | none => faultAt .badDirective text

/-! ### Structure -/

/-- The start of a flow collection. -/
def flowStart (scanner : Scanner) (kind : TokenKind) : Step := do
  let scanner ← saveKey scanner
  let scanner := scanner.take kind 1
  return { scanner with flow := scanner.flow + 1, allowsKey := true }

/-- The end of a flow collection. -/
def flowEnd (scanner : Scanner) (kind : TokenKind) : Step := do
  let scanner ← dropKey scanner
  let scanner := scanner.take kind 1
  return { scanner with flow := scanner.flow - 1, allowsKey := false }

/-- A comma between the entries of a flow collection. -/
def flowEntry (scanner : Scanner) : Step := do
  let scanner ← dropKey scanner
  return (scanner.take .flowEntry 1).allowKey true

/-- The mark of an entry of a block sequence. -/
def entry (scanner : Scanner) : Step := do
  if scanner.inBlock && !scanner.allowsKey then fault .entryNotAllowed scanner
  let scanner := if scanner.inBlock then scanner.startBlockHere .sequenceStart else scanner
  let scanner ← dropKey scanner
  return (scanner.take .entry 1).allowKey true

/-- The mark of a key. -/
def key (scanner : Scanner) : Step := do
  if scanner.inBlock && !scanner.allowsKey then fault .keyNotAllowed scanner
  let scanner := if scanner.inBlock then scanner.startBlockHere .mappingStart else scanner
  let scanner ← dropKey scanner
  return (scanner.take .key 1).allowKey scanner.inBlock

/-- The mark of a value.  If there is a possible key, it is one now. -/
def value (scanner : Scanner) : Step := do
  match scanner.keys.lookup scanner.flow with
  | some found =>
    let scanner := { scanner with keys := scanner.keys.filter (·.1 != scanner.flow) }
    let scanner := scanner.pushAt found.index .key found.place
    let scanner := if scanner.inBlock then
      scanner.startBlock found.place.column found.index .mappingStart found.place else scanner
    return (scanner.take .value 1).allowKey false
  | none =>
    if scanner.inBlock && !scanner.allowsKey then fault .valueNotAllowed scanner
    let scanner := if scanner.inBlock then scanner.startBlockHere .mappingStart else scanner
    let scanner ← dropKey (scanner.allowKey scanner.inBlock)
    return scanner.take .value 1

/-- The characters that may follow the name of an anchor. -/
def endsName (c : Option Char) : Bool :=
  c.all fun c => isSpace c || "?:,]\x7d%@`".toList.contains c

/-- An alias or an anchor. -/
def named (scanner : Scanner) (kind : String → TokenKind) : Step := do
  let scanner ← saveKey scanner
  let name := (scanner.text.rest.drop 1).takeWhile isNameChar
  if name.isEmpty || !endsName (scanner.text.peek (name.length + 1)) then
    fault .badAnchor scanner
  else return (scanner.take (kind (String.ofList name)) (name.length + 1)).allowKey false

/-- A tag. -/
def tag (scanner : Scanner) : Step := do
  let scanner ← saveKey scanner
  let (handle, chars, text) ← tagParts scanner.text
  if !endsTag text.peek then faultAt .badTag text
  let kind := TokenKind.tag (handle.map String.ofList) (String.ofList chars)
  return { scanner.push kind with text, allowsKey := false }

/-! ### Scalars -/

/-- The scanner behind a scalar that it has read. -/
def pushScalar (scanner : Scanner) (content : WideString) (isPlain : Bool) (text : Text)
    (allowsKey : Bool) : Scanner :=
  { scanner.push (.scalar content isPlain) with text, allowsKey }

/-- A block scalar. -/
def blockScalar (scanner : Scanner) (isFolded : Bool) : Step := do
  let scanner ← dropKey scanner
  let (content, text) ← Scalar.block isFolded scanner.indent scanner.text
  return scanner.pushScalar (String.ofList content) false text true

/-- A quoted scalar. -/
def quotedScalar (scanner : Scanner) (quote : Char) : Step := do
  let scanner ← saveKey scanner
  let (content, text) ← Scalar.quoted quote scanner.text
  return scanner.pushScalar (.ofPoints content) false text false

/-- A plain scalar. -/
def plainScalar (scanner : Scanner) : Step := do
  let scanner ← saveKey scanner
  let scalar := Scalar.plain (!scanner.inBlock) (scanner.indent + 1) scanner.text
  return scanner.pushScalar (String.ofList scalar.content) true scalar.text scalar.hasBreak

/-- The characters that do not start a plain scalar on their own. -/
def isIndicator (c : Char) : Bool :=
  "-?:,[]\x7b\x7d#&*!|>'\"%@`".toList.contains c

/-- A plain scalar may start with a character, given the one behind it. -/
def startsPlain (scanner : Scanner) (c : Char) (next : Option Char) : Bool :=
  !(isSpace c || isIndicator c) ||
    (!endsWord next && (c = '-' || (scanner.inBlock && (c = '?' || c = ':'))))

/-- The token that starts with a character. -/
def token (scanner : Scanner) (c : Char) (next : Option Char) : Step :=
  let atStart := scanner.text.place.column = 0
  let endsMark := !scanner.inBlock || endsWord next
  if atStart && c = '%' then directive scanner
  else if atStart && scanner.text.hasMark '-' then documentMark scanner .documentStart
  else if atStart && scanner.text.hasMark '.' then documentMark scanner .documentEnd
  else if c = '[' then flowStart scanner .flowSequenceStart
  else if c = '\x7b' then flowStart scanner .flowMappingStart
  else if c = ']' then flowEnd scanner .flowSequenceEnd
  else if c = '\x7d' then flowEnd scanner .flowMappingEnd
  else if c = ',' then flowEntry scanner
  else if c = '-' && endsWord next then entry scanner
  else if c = '?' && endsMark then key scanner
  else if c = ':' && endsMark then value scanner
  else if c = '*' then named scanner .alias
  else if c = '&' then named scanner .anchor
  else if c = '!' then tag scanner
  else if c = '|' && scanner.inBlock then blockScalar scanner false
  else if c = '>' && scanner.inBlock then blockScalar scanner true
  else if c = '\'' || c = '"' then quotedScalar scanner c
  else if startsPlain scanner c next then plainScalar scanner
  else fault (.strayCharacter c) scanner

/-- The scanner behind its next token, and whether there is more to read. -/
def step (scanner : Scanner) : Except Error (Scanner × Bool) := do
  let scanner := skipBlanks (scanner.text.rest.length + 1) scanner
  let scanner ← dropStaleKeys scanner
  let scanner := scanner.unwind scanner.text.place.column
  match scanner.text.rest with
  | [] => return (← dropKey (scanner.unwind (-1)), false)
  | c :: rest => return (← token scanner c rest.head?, true)

/-- The tokens in front of the first one that may still be a key. -/
def settled (scanner : Scanner) : List Token :=
  let keys := scanner.keys.filter fun (_, key) => !isStale scanner.text.place key
  scanner.tokens.take (keys.foldl (fun least (_, key) => min least key.index)
    scanner.tokens.length)

end Scanner

/-- The tokens of a text as far as it can be read, and why it cannot be read further. -/
structure TokenList where
  tokens : List Token
  failure : Option Error := none
deriving Repr, Inhabited

namespace Scanner

/-- Reads tokens to the end of the text, as far as the steps go. -/
def run : Nat → Scanner → TokenList
  | 0, scanner => ⟨scanner.tokens, none⟩
  | steps + 1, scanner =>
    match step scanner with
    | .ok (scanner, true) => run steps scanner
    | .ok (scanner, false) => ⟨scanner.tokens, none⟩
    | .error error => ⟨scanner.settled, some error⟩

end Scanner

/-- The tokens of a text.  A mark of the byte order at the very front is passed over. -/
def tokenize (source : List Char) : TokenList :=
  if source.any fun c => !isAllowed c then ⟨[], some (.fault .forbiddenCharacter {})⟩
  else
    let text : Text := { rest := source }
    let text := if source.head? = some '\uFEFF' then text.next else text
    Scanner.run (source.length + 1) { text }

end BindingSync.Yaml
