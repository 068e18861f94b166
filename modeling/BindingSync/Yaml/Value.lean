import BindingSync.Text.Base64
import BindingSync.Yaml.Document
import BindingSync.Yaml.Node
import BindingSync.Yaml.Number

/-!
# Values of YAML documents

The values are built from the nodes, each node once.  A collection is there before its parts:
the parts are built later, those of the collection that was met first coming first, so it
depends on the depth of a bad node whether it shows.  The pairs of a mapping keep the place of
the first pair with their key and the value of the last one.  Before a mapping is built, the
pairs under its merge keys are put in front of its own, which win over them.
-/

namespace BindingSync.Yaml

open BindingSync.Text

/-- Adds a pair behind the others.  A key that is there already keeps its place and gets the
new value. -/
def setPair (pairs : List (Atom × Value)) (key : Atom) (value : Value) : List (Atom × Value) :=
  match pairs with
  | [] => [(key, value)]
  | (other, old) :: rest =>
    if other.same key then (other, value) :: rest else (other, old) :: setPair rest key value

/-- What was built of the nodes so far. -/
structure Builder where
  nodes : NodeTable
  /-- The values of the nodes, as far as they are built. -/
  values : Array (Option Value)
  collections : Array (Option Collection)
  /-- The collections whose parts are still to be built, the next one first. -/
  waiting : List Nat := []
  /-- A bound for the number of merge keys. -/
  mergeBound : Nat := 0
deriving Inhabited

/-- A step of building values. -/
abbrev Build := StateT Builder (Except Error)

namespace Build

/-- The node of a number. -/
def node (number : Nat) : Build Node := do
  return ((← get).nodes[number]?).getD default

/-- Stops with a fault at a node. -/
def stop {α : Type} (fault : Fault) (number : Nat) : Build α := do
  throw (.fault fault (← node number).place)

/-- Goes on with a value, or ends the program. -/
def orCrash {α : Type} : Except Crash α → Build α
  | .ok value => return value
  | .error crash => throw (.crash crash)

/-- Changes the node of a number. -/
def change (number : Nat) (f : Node → Node) : Build Unit :=
  modify fun builder => { builder with nodes := builder.nodes.modify number f }

/-! ### Merge keys -/

/-- The pairs of a mapping. -/
def pairsOf (number : Nat) : Build (List (Nat × Nat)) := do
  match (← node number).content with
  | .mapping pairs => return pairs
  | _ => stop .badMerge number

/-- Gives a mapping other pairs. -/
def setPairs (number : Nat) (pairs : List (Nat × Nat)) : Build Unit :=
  change number fun node => { node with content := .mapping pairs }

/-- The value under the first merge key, and the other pairs. -/
def takeMerge : List (Nat × Nat) → Build (Option (Nat × List (Nat × Nat)))
  | [] => return none
  | (key, value) :: rest => do
    if (← node key).tag = .merge then return some (value, rest)
    else return (← takeMerge rest).map fun (found, others) => (found, (key, value) :: others)

/-- The mappings under a merge key: one, or the members of a sequence. -/
def mergedMappings (number : Nat) : Build (List Nat) := do
  match (← node number).content with
  | .mapping _ => return [number]
  | .sequence items => return items
  | .scalar _ => stop .badMerge number

/-- The keys for default values are texts when a mapping is built. -/
def plainKeys : List (Nat × Nat) → Build Unit
  | [] => return ()
  | (key, _) :: rest => do
    if (← node key).tag = .defaultValue then change key fun node => { node with tag := .text }
    plainKeys rest

/-- Takes the merge keys out of a mapping and puts the pairs under them in front, behind those
that are given.  Of several mappings under one key the last comes first, so that the first one
wins.  Every step takes out one merge key, so the number of pairs is enough for the steps. -/
def flatten : Nat → List (Nat × Nat) → Nat → Build Unit
  | 0, _, _ => return ()
  | steps + 1, merged, number => do
    match ← takeMerge (← pairsOf number) with
    | none => do
      plainKeys (← pairsOf number)
      setPairs number (merged ++ (← pairsOf number))
    | some (value, others) => do
      setPairs number others
      let found ← (← mergedMappings value).mapM fun mapping => do
        flatten steps [] mapping
        pairsOf mapping
      flatten steps (merged ++ found.reverse.flatten) number

/-- The number of all pairs. -/
def pairCount (nodes : NodeTable) : Nat :=
  (nodes.toList.map fun node => match node.content with
    | .mapping pairs => pairs.length
    | _ => 0).foldl (· + ·) 0

/-! ### Atoms -/

/-- The text of a scalar.  For a mapping stands the scalar under its key for default values; a
mapping that comes to stand for itself ends the program. -/
def textOf : Nat → Nat → Build WideString
  | 0, _ => throw (.crash .tooDeep)
  | steps + 1, number => do
    match (← node number).content with
    | .scalar text => return text
    | .sequence _ => stop .notAScalar number
    | .mapping pairs => do
      match ← pairs.filterM fun (key, _) => return (← node key).tag = .defaultValue with
      | (_, value) :: _ => textOf steps value
      | [] => stop .notAScalar number

/-- The text that a node stands for. -/
def text (number : Nat) : Build WideString := do
  textOf ((← get).nodes.size + 1) number

/-- The text that a node stands for, where it is to write something else.  Nothing else is
written with halves, nor with what is shown for them. -/
def shownText (number : Nat) : Build String := do
  return (← text number).toString

/-- The truth values of the words for them, in small letters. -/
def boolWords : List (String × Bool) :=
  [("yes", true), ("no", false), ("true", true), ("false", false), ("on", true), ("off", false)]

/-- The truth value of a text. -/
def boolOf (text : String) : Except Crash Bool :=
  match boolWords.lookup text.toLower with
  | some value => .ok value
  | none => .error .missingEntry

/-- The moment of a text. -/
def momentOf (text : String) : Except Crash Moment :=
  match Moment.ofText? (Plain.withoutLastBreak text.toList) with
  | some moment => if moment.isValid then .ok moment else .error .unacceptable
  | none => .error .missingMember

/-- The moment of a node, which has to be a scalar itself. -/
def moment (number : Nat) : Build Moment := do
  let text ← shownText number
  match (← node number).content with
  | .scalar _ => orCrash (momentOf text)
  | _ => throw (.crash .wrongKind)

/-- The bytes of a node in base 64. -/
def binary (number : Nat) : Build (List UInt8) := do
  let text := (← shownText number).toList
  if text.any fun c => 128 ≤ c.toNat then stop .badBinary number
  match Base64.decode? text with
  | some bytes => return bytes
  | none => stop .badBinary number

/-- The floating-point number of a node. -/
def float (number : Nat) : Build Atom := do
  let text ← shownText number
  match ← orCrash (Number.float text) with
  | .nan => return if Number.isNoNumberWord text then .float .nan else .noNumber number
  | value => return .float value

/-! ### Values -/

/-- A collection whose parts are built later. -/
def later (number : Nat) : Build Value := do
  modify fun builder => { builder with waiting := builder.waiting ++ [number] }
  return .collection number

/-- The value of a node that has none yet. -/
def newValue (number : Nat) : Build Value := do
  match (← node number).tag with
  | .null => do
    let _ ← text number
    return .atom .null
  | .bool => return .atom (.bool (← orCrash (boolOf (← shownText number))))
  | .int => return .atom (.int (← orCrash (Number.int (← shownText number))))
  | .float => return .atom (← float number)
  | .binary => return .atom (.binary (← binary number))
  | .timestamp => return .atom (.moment (← moment number))
  | .text => return .atom (.text (← text number))
  | .sequence => later number
  | .orderedMapping => later number
  | .pairs => later number
  | .mapping => later number
  | .set => later number
  | .merge => stop .undefinedTag number
  | .defaultValue => stop .undefinedTag number
  | .other _ => stop .undefinedTag number

/-- The value of a node. -/
def value (number : Nat) : Build Value := do
  match ((← get).values[number]?).join with
  | some value => return value
  | none => do
    let value ← newValue number
    modify fun builder =>
      { builder with values := builder.values.setIfInBounds number (some value) }
    return value

/-- The value of a key, which has to be an atom. -/
def key (number : Nat) : Build Atom := do
  match ← value number with
  | .atom atom => return atom
  | .collection _ => stop .unhashableKey number

/-- The pairs of a mapping behind those that are given. -/
def mappingPairs (built : List (Atom × Value)) :
    List (Nat × Nat) → Build (List (Atom × Value))
  | [] => return built
  | (keyNumber, valueNumber) :: rest => do
    let key ← key keyNumber
    let value ← value valueNumber
    mappingPairs (setPair built key value) rest

/-- The pairs of a mapping. -/
def mapping (number : Nat) : Build (List (Atom × Value)) := do
  match (← node number).content with
  | .mapping _ => do
    flatten ((← get).mergeBound + 1) [] number
    mappingPairs [] (← pairsOf number)
  | _ => stop .notAMapping number

/-- The items of a sequence. -/
def sequence (number : Nat) : Build (List Nat) := do
  match (← node number).content with
  | .sequence items => return items
  | _ => stop .notASequence number

/-- The pair of a mapping that has only one. -/
def singlePair (number : Nat) : Build (Value × Value) := do
  match (← node number).content with
  | .mapping [(keyNumber, valueNumber)] => do
    let key ← value keyNumber
    return (key, ← value valueNumber)
  | .mapping _ => stop .notASinglePair number
  | _ => stop .notAMapping number

/-- The parts of a collection. -/
def collection (number : Nat) : Build Collection := do
  match (← node number).tag with
  | .orderedMapping => return .pairs (← (← sequence number).mapM singlePair)
  | .pairs => return .pairs (← (← sequence number).mapM singlePair)
  | .mapping => return .mapping (← mapping number)
  | .set => return .set ((← mapping number).map Prod.fst)
  | _ => return .list (← (← sequence number).mapM value)

/-- Builds the parts of the collections that wait for them, as far as the steps go. -/
def fill : Nat → Build Unit
  | 0 => return ()
  | steps + 1 => do
    match (← get).waiting with
    | [] => return ()
    | number :: rest => do
      modify fun builder => { builder with waiting := rest }
      let found ← collection number
      modify fun builder =>
        { builder with collections := builder.collections.setIfInBounds number (some found) }
      fill steps

/-- The value of a node with all that is in it. -/
def whole (number : Nat) : Build Value := do
  let root ← value number
  fill ((← get).nodes.size + 1)
  return root

end Build

namespace Document

/-- The document of a graph of nodes. -/
def ofGraph (graph : NodeGraph) : Except Error Document := do
  let size := graph.nodes.size
  let start : Builder := {
    nodes := graph.nodes
    values := Array.replicate size none
    collections := Array.replicate size none
    mergeBound := Build.pairCount graph.nodes }
  let (root, builder) ← (Build.whole graph.root).run start
  return { root, collections := builder.collections }

/-- The document of a text; a text without a document has the value null. -/
def ofString (source : String) : Except Error Document := do
  match ← NodeGraph.ofTokens (tokenize source.toList) with
  | none => return {}
  | some graph => ofGraph graph

end Document

/-- The failure to load a text with an error. -/
def Error.toFailure : Error → LoadFailure
  | .fault found place =>
    .invalid s!"{found.message}, line {place.line + 1}, column {place.column + 1}"
  | .crash reason => .crash reason

/-- What comes of a text. -/
def load (source : String) : Except LoadFailure Document :=
  (Document.ofString source).mapError Error.toFailure

end BindingSync.Yaml
