import BindingSync.Text.Numeral
import BindingSync.Text.Quoted

/-!
# Argument lists

A command has flags, which stand anywhere, and slots, which are filled in order by the words
that are no flags.  A flag may be shortened to any beginning that fits no other flag, and its
value stands behind an equals sign or is the next word.  Behind a word of two hyphens there
are no more flags; as the value of a flag, two hyphens behind an equals sign stand for none.
A word that looks like a negative number is no flag.

Flags and slots are handled as they are met, from left to right, so the first fault is the one
that is reported.  Words for which there is no place are collected.
-/

namespace BindingSync.Cli

open BindingSync.Text

/-- Why the program ends before it has done anything. -/
inductive Exit where
  /-- The help was asked for. -/
  | help (text : String)
  /-- The arguments are wrong. -/
  | usage (program message : String)
deriving DecidableEq, Repr, Inhabited

/-- A flag, by all its names. -/
structure Flag where
  names : List String
  takesValue : Bool
deriving DecidableEq, Repr, Inhabited

namespace Flag

/-- The name of a flag in messages. -/
def title (flag : Flag) : String :=
  "/".intercalate flag.names

end Flag

/-- A place for words that are no flags. -/
inductive Slot where
  /-- Exactly one word. -/
  | one (name : String)
  /-- At most one word. -/
  | optional (name : String)
  /-- A word and everything behind it. -/
  | remainder (name : String)
deriving DecidableEq, Repr, Inhabited

/-- A flag in a word, under one of its names, with the text behind it in the same word. -/
structure Occurrence where
  flag : Flag
  name : String
  attached : Option String := none
deriving DecidableEq, Repr, Inhabited

/-- What a word is to a command. -/
inductive Mark where
  | plain
  /-- The two hyphens behind which there are no flags. -/
  | separator
  /-- A flag, or nothing where a word looks like a flag that there is not. -/
  | flag (found : Option Occurrence)
deriving DecidableEq, Repr, Inhabited

/-- A command, and what it does with its flags and slots. -/
structure Form (σ : Type) where
  /-- The name of the program in messages. -/
  program : String
  flags : List Flag
  slots : List Slot
  /-- Handles a flag with its value, if it has one. -/
  onFlag : σ → Flag → Option String → Except Exit σ
  onSlot : σ → Slot → List String → Except Exit σ

namespace Form

variable {σ : Type}

/-- Ends with a message about the arguments. -/
def fail {α : Type} (form : Form σ) (message : String) : Except Exit α :=
  .error (.usage form.program message)

/-- Ends with a message about a flag. -/
def failFlag {α : Type} (form : Form σ) (flag : Flag) (message : String) : Except Exit α :=
  form.fail s!"argument {flag.title}: {message}"

/-! ### Flags among the words -/

/-- The flags with their names, one by one. -/
def named (form : Form σ) : List (String × Flag) :=
  form.flags.flatMap fun flag => flag.names.map fun name => (name, flag)

/-- A text before its first equals sign and behind it. -/
def splitValue (word : String) : Option (String × String) :=
  let start := word.toList.takeWhile (· != '=')
  match word.toList.drop start.length with
  | '=' :: rest => some (String.ofList start, String.ofList rest)
  | _ => none

/-- The word starts with the given text. -/
def beginsWith (word start : String) : Bool :=
  start.toList.isPrefixOf word.toList

/-- The flags that a word may be short for. -/
def candidates (form : Form σ) (word : String) : List Occurrence :=
  match word.toList with
  | '-' :: '-' :: _ =>
    let (start, attached) : String × Option String := match splitValue word with
      | some (start, text) => (start, some text)
      | none => (word, none)
    form.named.filterMap fun (name, flag) =>
      if beginsWith name start then some { flag, name, attached } else none
  | a :: b :: rest =>
    let short := String.ofList [a, b]
    form.named.filterMap fun (name, flag) =>
      if name = short then some { flag, name, attached := some (String.ofList rest) }
      else if beginsWith name word then some { flag, name }
      else none
  | _ => []

/-- The text is a run of decimal digits. -/
def allDecimal (text : List Char) : Bool :=
  text.all fun c => (decimalValue? c).isSome

/-- A word that looks like a negative number; a line end behind it does not matter. -/
def isNegativeNumber (word : String) : Bool :=
  match word.toList with
  | '-' :: rest =>
    let rest := if rest.getLast? = some '\n' then rest.dropLast else rest
    let whole := rest.takeWhile (· != '.')
    match rest.drop whole.length with
    | [] => !whole.isEmpty && allDecimal whole
    | _ :: fraction => allDecimal whole && !fraction.isEmpty && allDecimal fraction
  | _ => false

/-- What a word in front of any separator is. -/
def markOf (form : Form σ) (word : String) : Except Exit Mark :=
  match word.toList with
  | '-' :: _ :: _ =>
    match form.named.lookup word with
    | some flag => .ok (.flag (some { flag, name := word }))
    | none =>
      let exact := (splitValue word).bind fun (name, text) =>
        (form.named.lookup name).map fun flag =>
          ({ flag, name, attached := some text } : Occurrence)
      match exact with
      | some found => .ok (.flag (some found))
      | none =>
        match form.candidates word with
        | [found] => .ok (.flag (some found))
        | [] =>
          if isNegativeNumber word || word.toList.contains ' ' then .ok .plain
          else .ok (.flag none)
        | found =>
          let names := ", ".intercalate (found.map Occurrence.name)
          form.fail s!"ambiguous option: {word} could match {names}"
  | _ => .ok .plain

/-- The words with what they are. -/
def markAll (form : Form σ) : List String → Except Exit (List (String × Mark))
  | [] => .ok []
  | word :: rest =>
    if word = "--" then
      .ok ((word, .separator) :: rest.map fun word => (word, .plain))
    else do
      let mark ← form.markOf word
      return (word, mark) :: (← form.markAll rest)

/-! ### Slots -/

/-- The number of separators at the front. -/
def separators (words : List (String × Mark)) : Nat :=
  (words.takeWhile (·.2 = .separator)).length

/-- The number of words that fill a slot. -/
def sizeOf? (slot : Slot) (words : List (String × Mark)) : Option Nat :=
  let before := separators words
  let hasWord := ((words.drop before).head?.map Prod.snd) = some .plain
  match slot with
  | .one _ =>
    if hasWord then some (before + 1 + separators (words.drop (before + 1))) else none
  | .optional _ =>
    if hasWord then some (before + 1 + separators (words.drop (before + 1))) else some before
  | .remainder _ => if hasWord then some words.length else none

/-- The numbers of words that fill the first slots, as many of them as can be filled. -/
def sizes (words : List (String × Mark)) : List Slot → List Nat
  | [] => []
  | slot :: slots =>
    match sizeOf? slot words with
    | some size => size :: sizes (words.drop size) slots
    | none => []

/-- The words of a slot without the first separator; a slot that takes everything keeps it. -/
def wordsOf (slot : Slot) (words : List String) : List String :=
  match slot with
  | .remainder _ => words
  | _ => words.erase "--"

/-- A parse that is under way. -/
structure State (σ : Type) where
  value : σ
  words : List (String × Mark)
  slots : List Slot
  extras : List String := []

/-- Fills slots with the given numbers of words. -/
def fill (form : Form σ) : List Nat → State σ → Except Exit (State σ)
  | [], state => .ok state
  | size :: rest, state =>
    match state.slots with
    | [] => .ok state
    | slot :: slots => do
      let words := (state.words.take size).map Prod.fst
      let value ← form.onSlot state.value slot (wordsOf slot words)
      form.fill rest { state with value, slots, words := state.words.drop size }

/-- Fills as many slots as the next words can. -/
def fillSlots (form : Form σ) (state : State σ) : Except Exit (State σ) :=
  form.fill (sizes state.words state.slots) state

/-! ### Flags -/

/-- Handles flags without values. -/
def setFlags (form : Form σ) (flags : List Flag) (state : State σ) : Except Exit (State σ) := do
  let value ← flags.foldlM (fun value flag => form.onFlag value flag none) state.value
  return { state with value }

/-- Handles a flag with a value, which may be missing. -/
def setValue (form : Form σ) (flag : Flag) (value : Option String) (state : State σ) :
    Except Exit (State σ) := do
  let value ← form.onFlag state.value flag value
  return { state with value }

/-- The state behind a number of words. -/
def skip (count : Nat) (state : State σ) : State σ :=
  { state with words := state.words.drop count }

/-- Handles a flag that ends the first word, and before it the flags without values that stand
in front of it in the same word. -/
def lastFlag (form : Form σ) (earlier : List Flag) (flag : Flag) (state : State σ) :
    Except Exit (State σ) :=
  if flag.takesValue then
    match state.words with
    | _ :: (value, .plain) :: _ => do
      form.setValue flag (some value) (skip 2 (← form.setFlags earlier state))
    | _ => form.failFlag flag "expected one argument"
  else return skip 1 (← form.setFlags (earlier ++ [flag]) state)

/-- The value that a text behind a flag is; two hyphens are no value. -/
def attachedValue (text : List Char) : Option String :=
  if text = ['-', '-'] then none else some (String.ofList text)

/-- Handles a flag with a text behind it in the first word.  The text is the value of the flag,
or the letters of more flags; only a flag with one hyphen can be followed by letters. -/
def joinedFlags (form : Form σ) (earlier : List Flag) (flag : Flag) (isLong : Bool)
    (state : State σ) (text : List Char) : Except Exit (State σ) :=
  if flag.takesValue then do
    form.setValue flag (attachedValue text) (skip 1 (← form.setFlags earlier state))
  else
    let ignored : Except Exit (State σ) :=
      form.failFlag flag s!"ignored explicit argument {quoted (String.ofList text)}"
    match text with
    | [] => ignored
    | c :: rest =>
      if isLong then ignored
      else
        match form.named.lookup (String.ofList ['-', c]) with
        | none => ignored
        | some next =>
          match rest with
          | [] => form.lastFlag (earlier ++ [flag]) next state
          | d :: more => form.joinedFlags (earlier ++ [flag]) next false state (d :: more)

/-- Handles the flag that the first word is. -/
def takeFlag (form : Form σ) (word : String) (found : Option Occurrence) (state : State σ) :
    Except Exit (State σ) :=
  match found with
  | none => .ok (skip 1 { state with extras := state.extras ++ [word] })
  | some ⟨flag, _, none⟩ => form.lastFlag [] flag state
  | some ⟨flag, name, some text⟩ =>
    form.joinedFlags [] flag (beginsWith name "--") state text.toList

/-! ### Whole lists -/

/-- The slots that have to be filled. -/
def required (slots : List Slot) : List String :=
  slots.filterMap fun
    | .one name => some name
    | _ => none

/-- Handles the words up to the last flag and the flags among them. -/
def run (form : Form σ) : Nat → State σ → Except Exit (State σ)
  | 0, state => .ok state
  | steps + 1, state =>
    let isFlag (word : String × Mark) : Bool := match word.2 with
      | .flag _ => true
      | _ => false
    let before := state.words.takeWhile (!isFlag ·)
    if (state.words.drop before.length).isEmpty then form.fillSlots state
    else if before.isEmpty then
      match state.words with
      | (word, .flag found) :: _ => do form.run steps (← form.takeFlag word found state)
      | _ => .ok state
    else do
      let filled ← form.fillSlots state
      if filled.words.length < state.words.length then form.run steps filled
      else
        form.run steps { filled with
          words := filled.words.drop before.length
          extras := filled.extras ++ before.map Prod.fst }

/-- Handles a list of words: the result, and the words for which there is no place. -/
def parse (form : Form σ) (start : σ) (words : List String) : Except Exit (σ × List String) := do
  let marked ← form.markAll words
  let steps := 2 * marked.length + 1
  let state ← form.run steps { value := start, words := marked, slots := form.slots }
  match required state.slots with
  | [] => return (state.value, state.extras ++ state.words.map Prod.fst)
  | names =>
    let names := ", ".intercalate names
    form.fail s!"the following arguments are required: {names}"

end Form

end BindingSync.Cli
