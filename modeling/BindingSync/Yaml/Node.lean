import BindingSync.Yaml.Plain
import BindingSync.Yaml.Token

/-!
# Nodes of a YAML document

A document is a graph of scalars, sequences and mappings.  A node may have a name, its anchor,
and an alias stands for the node with its anchor, which may well be a node around it.  So the
nodes stand in a table, and a node knows its parts by their numbers in the table.  Where a node
is left out there is an empty plain scalar.  A text holds at most one document.

The tokens are taken one after the other, and none is looked at before it has to be: a fault of
the document comes before a fault of the text if it shows in the tokens in front of that.
-/

namespace BindingSync.Yaml

open BindingSync.Text (WideString)

/-- The content of a node, with its parts by their numbers. -/
inductive Content where
  | scalar (text : WideString)
  | sequence (items : List Nat)
  | mapping (pairs : List (Nat × Nat))
deriving DecidableEq, Repr, Inhabited

/-- A node of a document, with the place where it starts. -/
structure Node where
  tag : Tag
  content : Content
  place : Place := {}
deriving DecidableEq, Repr, Inhabited

/-- The nodes of a document by their numbers. -/
abbrev NodeTable := Array Node

/-- What is written in front of a node. -/
structure Properties where
  anchor : Option String := none
  tag : Option String := none
deriving DecidableEq, Repr, Inhabited

/-- What was composed of the tokens so far, and the tokens that are left. -/
structure Composer where
  tokens : List Token
  /-- Why there are no more tokens, if the text cannot be read to its end. -/
  failure : Option Error := none
  handles : TagHandles := .standard
  nodes : NodeTable := #[]
  /-- The numbers of the nodes with anchors. -/
  anchors : List (String × Nat) := []
deriving Inhabited

/-- A step of composing nodes. -/
abbrev Compose := StateT Composer (Except Error)

namespace Compose

/-- The next token, unless the text is at its end. -/
def peek : Compose (Option Token) := do
  let composer ← get
  match composer.tokens, composer.failure with
  | token :: _, _ => return some token
  | [], none => return none
  | [], some error => throw error

/-- The kind of the next token. -/
def kind : Compose (Option TokenKind) := do
  return (← peek).map Token.kind

/-- The place of the next token. -/
def place : Compose Place := do
  return ((← peek).map Token.place).getD {}

/-- Takes the next token. -/
def skip : Compose Unit :=
  modify fun composer => { composer with tokens := composer.tokens.drop 1 }

/-- Takes the next token if it has the given kind. -/
def takeIf (expected : TokenKind) : Compose Bool := do
  if (← kind) = some expected then
    skip
    return true
  else return false

/-- Stops with a fault where the tokens in hand end. -/
def stop {α : Type} (fault : Fault) : Compose α := do
  let next := (← get).tokens.head?
  throw (.fault fault ((next.map Token.place).getD {}))

/-- A node is left out in front of the next token. -/
def isLeftOut (kinds : List TokenKind) : Compose Bool := do
  return (← kind).all kinds.contains

/-! ### Single nodes -/

/-- Adds a node to the table: its number. -/
def add (node : Node) : Compose Nat := do
  let number := (← get).nodes.size
  modify fun composer => { composer with nodes := composer.nodes.push node }
  return number

/-- Adds the node that stands where nothing is written. -/
def addEmpty : Compose Nat := do
  add { tag := .null, content := .scalar (.plain ""), place := ← place }

/-- Adds a node with its properties.  No two nodes have the same anchor. -/
def addNamed (properties : Properties) (node : Node) : Compose Nat := do
  match properties.anchor with
  | none => add node
  | some name =>
    if ((← get).anchors.lookup name).isSome then
      throw (.fault (.duplicateAnchor name) node.place)
    let number ← add node
    modify fun composer => { composer with anchors := (name, number) :: composer.anchors }
    return number

/-- Gives a node that is there already its content. -/
def setContent (number : Nat) (content : Content) : Compose Unit :=
  modify fun composer => { composer with
    nodes := composer.nodes.modify number fun node => { node with content } }

/-- The number of the node with an anchor. -/
def aliased (name : String) : Compose Nat := do
  match (← get).anchors.lookup name with
  | some number => return number
  | none => stop (.undefinedAlias name)

/-! ### Properties -/

/-- The anchor in front of a node. -/
def anchor? : Compose (Option String) := do
  match ← kind with
  | some (.anchor name) => do
    skip
    return some name
  | _ => return none

/-- The tag in front of a node: its handle and the rest of it. -/
def tag? : Compose (Option (Option String × String)) := do
  match ← kind with
  | some (.tag handle rest) => do
    skip
    return some (handle, rest)
  | _ => return none

/-- The full name of a tag. -/
def fullTag : Option String × String → Compose String
  | (none, name) => return name
  | (some handle, rest) => do
    match (← get).handles.expand? handle rest with
    | some name => return name
    | none => stop .undefinedHandle

/-- The anchor and the tag in front of a node, in either order. -/
def properties : Compose Properties := do
  match ← anchor? with
  | some anchor => do
    let tag ← tag?
    return { anchor := some anchor, tag := ← tag.mapM fullTag }
  | none =>
    match ← tag? with
    | none => return {}
    | some tag => do
      let anchor ← anchor?
      return { anchor, tag := some (← fullTag tag) }

/-- The tag of a scalar: a plain one without a tag, and one with an exclamation mark for its
tag, get it from their content. -/
def scalarTag (found : Properties) (isPlain : Bool) (content : WideString) : Tag :=
  match found.tag with
  | none => if isPlain then Plain.tagOf content.toString else .text
  | some "!" => Plain.tagOf content.toString
  | some name => .ofString name

/-- The tag of a collection. -/
def collectionTag (found : Properties) (standard : Tag) : Tag :=
  match found.tag with
  | none => standard
  | some "!" => standard
  | some name => .ofString name

/-- Adds a scalar. -/
def addScalar (found : Properties) (isPlain : Bool) (content : WideString) (place : Place) :
    Compose Nat :=
  addNamed found { tag := scalarTag found isPlain content, content := .scalar content, place }

/-- Adds a sequence whose items are composed behind it. -/
def addSequence (found : Properties) (place : Place) (items : Compose (List Nat)) :
    Compose Nat := do
  let number ← addNamed found
    { tag := collectionTag found .sequence, content := .sequence [], place }
  setContent number (.sequence (← items))
  return number

/-- Adds a mapping whose pairs are composed behind it. -/
def addMapping (found : Properties) (place : Place) (pairs : Compose (List (Nat × Nat))) :
    Compose Nat := do
  let number ← addNamed found
    { tag := collectionTag found .mapping, content := .mapping [], place }
  setContent number (.mapping (← pairs))
  return number

/-- Passes the comma between two members of a flow collection. -/
def skipComma : Compose Unit := do
  unless ← takeIf .flowEntry do stop .missingFlowEnd

/-! ### Nodes inside one another -/

/-- Where a node stands: what kinds of collection it may be. -/
inductive Position where
  /-- Inside a flow collection. -/
  | flow
  | block
  /-- A value of a block mapping, which may be a sequence that is not indented. -/
  | blockOrEntries
deriving DecidableEq, Repr

/-- The greatest number of nodes inside one another. -/
def maxDepth : Nat := 490

mutual

/-- The next node, with at most the given number of levels. -/
def node : Nat → Nat → Position → Compose Nat
  | 0, _, _ => stop .missingContent
  | fuel + 1, depth, position => do
    if depth = 0 then throw (.crash .tooDeep)
    match ← kind with
    | some (.alias name) => do
      skip
      aliased name
    | _ => do
      let place ← place
      let found ← properties
      if position = .blockOrEntries && (← kind) = some .entry then
        addSequence found place (looseEntries fuel (depth - 1))
      else content fuel (depth - 1) found position place

/-- The content of a node behind its properties. -/
def content : Nat → Nat → Properties → Position → Place → Compose Nat
  | 0, _, _, _, _ => stop .missingContent
  | fuel + 1, depth, found, position, place => do
    match ← kind, position with
    | some (.scalar content isPlain), _ => do
      skip
      addScalar found isPlain content place
    | some .flowSequenceStart, _ => do
      skip
      addSequence found place (flowItems fuel depth true)
    | some .flowMappingStart, _ => do
      skip
      addMapping found place (flowPairs fuel depth true)
    | some .sequenceStart, .block => do
      skip
      addSequence found place (entries fuel depth)
    | some .sequenceStart, .blockOrEntries => do
      skip
      addSequence found place (entries fuel depth)
    | some .mappingStart, .block => do
      skip
      addMapping found place (pairs fuel depth)
    | some .mappingStart, .blockOrEntries => do
      skip
      addMapping found place (pairs fuel depth)
    | _, _ =>
      if found = {} then stop .missingContent
      else addScalar found found.tag.isNone (.plain "") place

/-- A node, or an empty one if one of the given tokens follows. -/
def nodeUnless : Nat → Nat → List TokenKind → Position → Compose Nat
  | 0, _, _, _ => stop .missingContent
  | fuel + 1, depth, kinds, position => do
    if ← isLeftOut kinds then addEmpty else node fuel depth position

/-- The entries of a block sequence up to its end. -/
def entries : Nat → Nat → Compose (List Nat)
  | 0, _ => stop .missingBlockEnd
  | fuel + 1, depth => do
    if ← takeIf .entry then
      let item ← nodeUnless fuel depth [.entry, .blockEnd] .block
      return item :: (← entries fuel depth)
    else if ← takeIf .blockEnd then return []
    else stop .missingBlockEnd

/-- The entries of a block sequence that is not indented. -/
def looseEntries : Nat → Nat → Compose (List Nat)
  | 0, _ => stop .missingBlockEnd
  | fuel + 1, depth => do
    if ← takeIf .entry then
      let item ← nodeUnless fuel depth [.entry, .key, .value, .blockEnd] .block
      return item :: (← looseEntries fuel depth)
    else return []

/-- The pairs of a block mapping up to its end. -/
def pairs : Nat → Nat → Compose (List (Nat × Nat))
  | 0, _ => stop .missingBlockEnd
  | fuel + 1, depth => do
    if ← takeIf .key then
      let key ← nodeUnless fuel depth [.key, .value, .blockEnd] .blockOrEntries
      let value ←
        if ← takeIf .value then nodeUnless fuel depth [.key, .value, .blockEnd] .blockOrEntries
        else addEmpty
      return (key, value) :: (← pairs fuel depth)
    else if ← takeIf .blockEnd then return []
    else stop .missingBlockEnd

/-- The key and the value of a pair inside a flow collection that ends with the given token. -/
def flowPair : Nat → Nat → TokenKind → Compose (Nat × Nat)
  | 0, _, _ => stop .missingFlowEnd
  | fuel + 1, depth, last => do
    let key ← nodeUnless fuel depth [.value, .flowEntry, last] .flow
    let value ←
      if ← takeIf .value then nodeUnless fuel depth [.flowEntry, last] .flow else addEmpty
    return (key, value)

/-- The items of a flow sequence up to its end; a pair among them is a mapping of its own. -/
def flowItems : Nat → Nat → Bool → Compose (List Nat)
  | 0, _, _ => stop .missingFlowEnd
  | fuel + 1, depth, isFirst => do
    if ← takeIf .flowSequenceEnd then return []
    else
      unless isFirst do skipComma
      if ← takeIf .flowSequenceEnd then return []
      else
        let place ← place
        let item ←
          if ← takeIf .key then
            addMapping {} place do
              return [← flowPair fuel (depth - 1) .flowSequenceEnd]
          else node fuel depth .flow
        return item :: (← flowItems fuel depth false)

/-- The pairs of a flow mapping up to its end; a key may stand without a value. -/
def flowPairs : Nat → Nat → Bool → Compose (List (Nat × Nat))
  | 0, _, _ => stop .missingFlowEnd
  | fuel + 1, depth, isFirst => do
    if ← takeIf .flowMappingEnd then return []
    else
      unless isFirst do skipComma
      if ← takeIf .flowMappingEnd then return []
      else
        let pair ←
          if ← takeIf .key then flowPair fuel depth .flowMappingEnd
          else do
            let key ← node fuel depth .flow
            pure (key, ← addEmpty)
        return pair :: (← flowPairs fuel depth false)

end

/-! ### Documents -/

/-- Handles a directive, given whether there was one for the version. -/
def obey (hasVersion : Bool) : Directive → Compose Bool
  | .version major _ =>
    if hasVersion then stop .secondVersion
    else if major ≠ 1 then stop .otherVersion
    else return true
  | .handle name start => do
    if ((← get).handles.lookup name).isSome then stop .secondHandle
    modify fun composer => { composer with handles := (name, start) :: composer.handles }
    return hasVersion
  | .other => return hasVersion

/-- Handles directives, as far as the steps go. -/
def directives : Nat → Bool → Compose Unit
  | 0, _ => return ()
  | steps + 1, hasVersion => do
    match ← kind with
    | some (.directive found) => do
      skip
      directives steps (← obey hasVersion found)
    | _ => return ()

/-- Handles the directives in front of a document and the mark for its start.  The handles that
every document has can be given another meaning. -/
def documentStart (steps : Nat) : Compose Unit := do
  modify fun composer => { composer with handles := [] }
  directives steps false
  modify fun composer => { composer with handles := composer.handles ++ TagHandles.standard }
  if !(← takeIf .documentStart) then stop .missingDocumentStart

/-- Takes marks for the end of a document, as far as the steps go. -/
def documentEnds : Nat → Compose Unit
  | 0 => return ()
  | steps + 1 => do
    if ← takeIf .documentEnd then documentEnds steps

/-- Some directive is next. -/
def isAtDirective : Compose Bool := do
  match ← kind with
  | some (.directive _) => return true
  | _ => return false

/-- The number of the first node of the only document, if there is a document.  Behind it
nothing may stand but marks for its end; the start of another document is read before that is
a fault. -/
def document (steps : Nat) : Compose (Option Nat) := do
  let fuel := 4 * steps + 8
  if (← kind).isNone then return none
  let root ←
    if (← isAtDirective) || (← kind) = some .documentStart then do
      documentStart steps
      if (← isAtDirective) || (← isLeftOut [.documentStart, .documentEnd]) then addEmpty
      else node fuel maxDepth .block
    else node fuel maxDepth .block
  documentEnds steps
  if (← kind).isNone then return some root
  else do
    documentStart steps
    stop .secondDocument

end Compose

/-- The nodes of a document and the number of the first one. -/
structure NodeGraph where
  nodes : NodeTable
  root : Nat
deriving Inhabited

namespace NodeGraph

/-- The nodes of the document of a text, if there is a document. -/
def ofTokens (found : TokenList) : Except Error (Option NodeGraph) := do
  let start : Composer := { tokens := found.tokens, failure := found.failure }
  let (root, composer) ← (Compose.document found.tokens.length).run start
  return root.map fun root => ⟨composer.nodes, root⟩

end NodeGraph

end BindingSync.Yaml
