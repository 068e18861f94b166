import BindingSync.Proofs.Yaml.FieldTokens
import BindingSync.Yaml.Value

/-!
# Texts of one field

A text of a key, a colon, a space and a word is a mapping of one pair
(`Document.ofString_field_of_ok`) unless the word has no value.  The key and the word are written
plainly, so each of them has the tag that its form asks for.
-/

namespace BindingSync.Yaml

open BindingSync.Text

variable {key word : List Char}

/-! ### The nodes of a field -/

namespace Compose

lemma bind_apply {α β : Type} {step : Compose α} {next : α → Compose β} {composer after : Composer}
    {value : α} (h : step composer = .ok (value, after)) :
    (step >>= next) composer = next value after := by
  simp only [bind, StateT.bind, h, Except.bind]

variable {tokens : List Token} {failure : Option Error} {handles : TagHandles} {nodes : NodeTable}
  {anchors : List (String × Nat)} {content key value : WideString} {isPlain : Bool}
  {place : Place} {position : Position} {kinds : List TokenKind}

/-- What is expected is taken. -/
lemma takeIf_head {expected : TokenKind} :
    takeIf expected ⟨⟨expected, place⟩ :: tokens, failure, handles, nodes, anchors⟩ =
      .ok (true, ⟨tokens, failure, handles, nodes, anchors⟩) := by
  have hkind : Compose.kind ⟨⟨expected, place⟩ :: tokens, failure, handles, nodes, anchors⟩ =
      .ok (some expected, ⟨⟨expected, place⟩ :: tokens, failure, handles, nodes, anchors⟩) := rfl
  rw [takeIf, bind_apply hkind, if_pos rfl]
  rfl

/-- A scalar is one node. -/
lemma nodeUnless_scalar (hkinds : kinds.contains (.scalar content isPlain) = false)
    (fuel depth : Nat) :
    nodeUnless (fuel + 3) (depth + 1) kinds position
        ⟨⟨.scalar content isPlain, place⟩ :: tokens, failure, handles, nodes, anchors⟩ =
      .ok (nodes.size, ⟨tokens, failure, handles,
        nodes.push ⟨scalarTag {} isPlain content, .scalar content, place⟩, anchors⟩) := by
  have hleft : isLeftOut kinds
      ⟨⟨.scalar content isPlain, place⟩ :: tokens, failure, handles, nodes, anchors⟩ =
        .ok (false,
          ⟨⟨.scalar content isPlain, place⟩ :: tokens, failure, handles, nodes, anchors⟩) := by
    rw [← hkinds]
    rfl
  have hnode : node (fuel + 2) (depth + 1) position
      ⟨⟨.scalar content isPlain, place⟩ :: tokens, failure, handles, nodes, anchors⟩ =
        Compose.content (fuel + 1) depth {} position place
          ⟨⟨.scalar content isPlain, place⟩ :: tokens, failure, handles, nodes, anchors⟩ := by
    rw [node]
    cases position <;> rfl
  rw [nodeUnless, bind_apply hleft]
  refine hnode.trans ?_
  rw [Compose.content]
  cases position <;> rfl

/-- The pairs of a block end with it. -/
lemma pairs_blockEnd (fuel depth : Nat) :
    pairs (fuel + 1) depth ⟨⟨.blockEnd, place⟩ :: tokens, failure, handles, nodes, anchors⟩ =
      .ok ([], ⟨tokens, failure, handles, nodes, anchors⟩) := by
  rw [pairs]
  rfl

/-- The pairs of a block that has only one. -/
lemma pairs_single {atKey atScalar atValue atWord atEnd : Place} (fuel depth : Nat) :
    pairs (fuel + 4) (depth + 1) ⟨⟨.key, atKey⟩ :: ⟨.scalar key true, atScalar⟩ ::
        ⟨.value, atValue⟩ :: ⟨.scalar value true, atWord⟩ :: ⟨.blockEnd, atEnd⟩ :: tokens,
        failure, handles, nodes, anchors⟩ =
      .ok ([(nodes.size, nodes.size + 1)], ⟨tokens, failure, handles,
        (nodes.push ⟨scalarTag {} true key, .scalar key, atScalar⟩).push
          ⟨scalarTag {} true value, .scalar value, atWord⟩, anchors⟩) := by
  rw [pairs, bind_apply takeIf_head, if_pos rfl, bind_apply (nodeUnless_scalar rfl fuel depth),
    bind_apply takeIf_head, if_pos rfl, bind_apply (nodeUnless_scalar rfl fuel depth)]
  dsimp only
  rw [bind_apply (pairs_blockEnd (fuel + 2) (depth + 1)), Array.size_push]
  rfl

/-- A mapping is there before its pairs. -/
lemma addMapping_apply {items : Compose (List (Nat × Nat))} {found : List (Nat × Nat)}
    {after : Composer} (hitems : items ⟨tokens, failure, handles,
      nodes.push ⟨.mapping, .mapping [], place⟩, anchors⟩ = .ok (found, after)) :
    addMapping {} place items ⟨tokens, failure, handles, nodes, anchors⟩ =
      .ok (nodes.size, { after with
        nodes := after.nodes.modify nodes.size fun node =>
          { node with content := .mapping found } }) := by
  have hnamed : addNamed {} ⟨.mapping, .mapping [], place⟩
      ⟨tokens, failure, handles, nodes, anchors⟩ = .ok (nodes.size,
        ⟨tokens, failure, handles, nodes.push ⟨.mapping, .mapping [], place⟩, anchors⟩) := rfl
  rw [addMapping, collectionTag, bind_apply hnamed, bind_apply hitems]
  rfl

/-- A mapping of one pair. -/
lemma node_single {atStart atKey atScalar atValue atWord atEnd : Place} (fuel depth : Nat) :
    node (fuel + 6) (depth + 2) .block ⟨⟨.mappingStart, atStart⟩ :: ⟨.key, atKey⟩ ::
        ⟨.scalar key true, atScalar⟩ :: ⟨.value, atValue⟩ :: ⟨.scalar value true, atWord⟩ ::
        ⟨.blockEnd, atEnd⟩ :: tokens, failure, handles, #[], anchors⟩ =
      .ok (0, ⟨tokens, failure, handles,
        #[⟨.mapping, .mapping [(1, 2)], atStart⟩,
          ⟨scalarTag {} true key, .scalar key, atScalar⟩,
          ⟨scalarTag {} true value, .scalar value, atWord⟩], anchors⟩) := by
  rw [node]
  refine Eq.trans (b := Compose.content (fuel + 5) (depth + 1) {} .block atStart _) rfl ?_
  rw [Compose.content]
  exact addMapping_apply (pairs_single fuel depth)

end Compose

/-- The nodes of a field: a mapping, its key and the value. -/
def fieldGraph (key word : List Char) : NodeGraph where
  nodes := #[⟨.mapping, .mapping [(1, 2)], {}⟩,
    ⟨Plain.tagOf (String.ofList key), .scalar (String.ofList key), {}⟩,
    ⟨Plain.tagOf (String.ofList word), .scalar (String.ofList word),
      ((Place.behind {} key.length).behind 1).behind 1⟩]
  root := 0

lemma ofTokens_field (key word : List Char) :
    NodeGraph.ofTokens ⟨Scanner.fieldTokens key word, none⟩ = .ok (some (fieldGraph key word)) := by
  have hnode : Compose.node 32 Compose.maxDepth .block
      ⟨Scanner.fieldTokens key word, none, .standard, #[], []⟩ =
        .ok (0, ⟨[], none, .standard, (fieldGraph key word).nodes, []⟩) :=
    Compose.node_single 26 488
  have hdocument : Compose.document (Scanner.fieldTokens key word).length
      ⟨Scanner.fieldTokens key word, none, .standard, #[], []⟩ =
        .ok (some 0, ⟨[], none, .standard, (fieldGraph key word).nodes, []⟩) := by
    have hkind : Compose.kind ⟨Scanner.fieldTokens key word, none, .standard, #[], []⟩ =
      .ok (some .mappingStart, ⟨Scanner.fieldTokens key word, none, .standard, #[], []⟩) := rfl
    have hdirective : Compose.isAtDirective
      ⟨Scanner.fieldTokens key word, none, .standard, #[], []⟩ =
        .ok (false, ⟨Scanner.fieldTokens key word, none, .standard, #[], []⟩) := rfl
    rw [Compose.document]
    dsimp only
    rw [Compose.bind_apply hkind, if_neg (by simp), Compose.bind_apply hdirective,
      Compose.bind_apply hkind, if_neg (by simp), show 4 * _ + 8 = 32 from rfl,
      Compose.bind_apply hnode]
    rfl
  rw [NodeGraph.ofTokens]
  change (Compose.document _ _ >>= _) = _
  rw [hdocument]
  rfl

/-! ### The value of a field -/

/-- The document of a field. -/
def fieldDocument (key : WideString) (value : Value) : Document where
  root := .collection 0
  collections := #[some (.mapping [(.text key, value)]), none, none]

namespace Build

lemma bind_apply {α β : Type} {step : Build α} {next : α → Build β} {builder after : Builder}
    {value : α} (h : step builder = .ok (value, after)) :
    (step >>= next) builder = next value after := by
  simp only [bind, StateT.bind, h, Except.bind]

lemma bind_error {α β : Type} {step : Build α} {next : α → Build β} {builder : Builder}
    {error : Error} (h : step builder = .error error) :
    (step >>= next) builder = .error error := by
  simp only [bind, StateT.bind, h, Except.bind]

variable (key : WideString) (place : Place) (node : Node)

/-- The builder of a mapping of one pair, whose key is a text.  The parts of the mapping are still
to be built. -/
def ofPair : Builder where
  nodes := #[⟨.mapping, .mapping [(1, 2)], {}⟩, ⟨.text, .scalar key, place⟩, node]
  values := #[some (.collection 0), none, none]
  collections := #[none, none, none]
  mergeBound := 1

/-- The builder behind the key of the pair. -/
def behindKey : Builder where
  nodes := (ofPair key place node).nodes
  values := #[some (.collection 0), some (.atom (.text key)), none]
  collections := #[none, none, none]
  mergeBound := 1

/-- The builder behind the value of the pair. -/
def behindValue (value : Value) : Builder :=
  { behindKey key place node with
    values := #[some (.collection 0), some (.atom (.text key)), some value] }

variable {key place node} {value : Value} {error : Error}

lemma value_behindKey :
    Build.value 2 (behindKey key place node) = (newValue 2 >>= fun value => do
      modify fun builder =>
        { builder with values := builder.values.setIfInBounds 2 (some value) }
      return value) (behindKey key place node) :=
  rfl

lemma mapping_ofPair :
    mapping 0 (ofPair key place node) =
      (Build.value 2 >>= fun value => return [(.text key, value)]) (behindKey key place node) :=
  rfl

lemma collection_ofPair :
    collection 0 (ofPair key place node) =
      (mapping 0 >>= fun pairs => return Collection.mapping pairs) (ofPair key place node) :=
  rfl

lemma fill_ofPair :
    fill 4 { ofPair key place node with waiting := [0] } = (collection 0 >>= fun found => do
      modify fun builder =>
        { builder with collections := builder.collections.setIfInBounds 0 (some found) }
      fill 3) (ofPair key place node) :=
  rfl

/-- The value of the pair is built behind its key. -/
lemma fill_ofPair_of_ok
    (hvalue : newValue 2 (behindKey key place node) = .ok (value, behindKey key place node)) :
    fill 4 { ofPair key place node with waiting := [0] } = .ok ((),
      { behindValue key place node value with
        collections := #[some (.mapping [(.text key, value)]), none, none] }) := by
  have hbuilt : Build.value 2 (behindKey key place node) =
      .ok (value, behindValue key place node value) := by
    rw [value_behindKey, bind_apply hvalue]
    rfl
  have hmapping : mapping 0 (ofPair key place node) =
      .ok ([(.text key, value)], behindValue key place node value) := by
    rw [mapping_ofPair, bind_apply hbuilt]
    rfl
  have hcollection : collection 0 (ofPair key place node) =
      .ok (.mapping [(.text key, value)], behindValue key place node value) := by
    rw [collection_ofPair, bind_apply hmapping]
    rfl
  rw [fill_ofPair, bind_apply hcollection]
  rfl

/-- A word that has no value leaves the pair without one. -/
lemma fill_ofPair_of_error (hvalue : newValue 2 (behindKey key place node) = .error error) :
    fill 4 { ofPair key place node with waiting := [0] } = .error error := by
  rw [fill_ofPair]
  refine bind_error (collection_ofPair.trans (bind_error (mapping_ofPair.trans (bind_error ?_))))
  rw [value_behindKey, bind_error hvalue]

lemma whole_ofPair :
    whole 0 { ofPair key place node with values := #[none, none, none] } =
      (fill 4 >>= fun _ => return .collection 0)
        { ofPair key place node with waiting := [0] } :=
  rfl

end Build

namespace Document

variable {key word : List Char} {value : Value} {error : Error}

/-- The node of the word of a field. -/
def wordNode (key word : List Char) : Node where
  tag := Plain.tagOf (String.ofList word)
  content := .scalar (String.ofList word)
  place := ((Place.behind {} key.length).behind 1).behind 1

/-- The builder of a field, behind its key. -/
def fieldBuilder (key word : List Char) : Builder :=
  Build.behindKey (String.ofList key) {} (wordNode key word)

/-- The builder starts with a collection that is still to be built. -/
lemma ofGraph_ofPair (key word : List Char) :
    ofGraph ⟨(Build.ofPair (String.ofList key) {} (wordNode key word)).nodes, 0⟩ =
      (Build.whole 0 { Build.ofPair (String.ofList key) {} (wordNode key word) with
        values := #[none, none, none] }).bind
        fun built => .ok { root := built.1, collections := built.2.collections } :=
  rfl

section Fields

variable (hkey : IsWord key) (hshort : key.length ≤ 1024)
  (htag : Plain.tagOf (String.ofList key) = .text) (hword : IsWord word)
include hkey hshort htag hword

lemma ofString_fieldText :
    ofString (String.ofList (fieldText key word)) =
      ofGraph ⟨(Build.ofPair (String.ofList key) {} (wordNode key word)).nodes, 0⟩ := by
  rw [ofString, String.toList_ofList, tokenize_field hkey hshort hword, ofTokens_field]
  change ofGraph (fieldGraph key word) = _
  rw [fieldGraph, htag]
  rfl

/-- A text of a key and a word is read as a mapping of one pair. -/
lemma ofString_field_of_ok
    (hvalue : Build.newValue 2 (fieldBuilder key word) = .ok (value, fieldBuilder key word)) :
    ofString (String.ofList (fieldText key word)) =
      .ok (fieldDocument (String.ofList key) value) := by
  rw [ofString_fieldText hkey hshort htag hword, ofGraph_ofPair, Build.whole_ofPair,
    Build.bind_apply (Build.fill_ofPair_of_ok hvalue)]
  rfl

/-- It is not read if the word has no value. -/
lemma ofString_field_of_error (hvalue : Build.newValue 2 (fieldBuilder key word) = .error error) :
    ofString (String.ofList (fieldText key word)) = .error error := by
  rw [ofString_fieldText hkey hshort htag hword, ofGraph_ofPair, Build.whole_ofPair,
    Build.bind_error (Build.fill_ofPair_of_error hvalue)]
  rfl

end Fields

/-! ### The values of words -/

section Words

lemma newValue_of_text (h : Plain.tagOf (String.ofList word) = .text) :
    Build.newValue 2 (fieldBuilder key word) =
      .ok (.atom (.text (String.ofList word)), fieldBuilder key word) := by
  rw [fieldBuilder, wordNode, h]
  rfl

lemma newValue_of_int (h : Plain.tagOf (String.ofList word) = .int) :
    Build.newValue 2 (fieldBuilder key word) =
      (Build.orCrash (Number.int (String.ofList word)) >>= fun n => return .atom (.int n))
        (fieldBuilder key word) := by
  rw [fieldBuilder, wordNode, h]
  rfl

lemma newValue_of_float (h : Plain.tagOf (String.ofList word) = .float) :
    Build.newValue 2 (fieldBuilder key word) =
      (Build.float 2 >>= fun atom => return .atom atom) (fieldBuilder key word) := by
  rw [fieldBuilder, wordNode, h]
  rfl

lemma float_fieldBuilder {x : Numeral.Binary64} (hx : Number.float (String.ofList word) = .ok x)
    (hnan : x ≠ .nan) :
    Build.float 2 (fieldBuilder key word) = .ok (.float x, fieldBuilder key word) := by
  have hshown : Build.shownText 2 (fieldBuilder key word) =
      .ok (String.ofList word, fieldBuilder key word) := rfl
  have hvalue : Build.orCrash (Number.float (String.ofList word)) (fieldBuilder key word) =
      .ok (x, fieldBuilder key word) := by
    rw [hx]
    rfl
  rw [Build.float, Build.bind_apply hshown, Build.bind_apply hvalue]
  cases x with
  | nan => exact absurd rfl hnan
  | _ => rfl

end Words

end Document

end BindingSync.Yaml
