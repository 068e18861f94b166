import Mathlib.Data.List.Perm.Basic
import Mathlib.Tactic.Common
import BindingSync.Cli.Run
import BindingSync.Proofs.Fallible

/-!
# What becomes of a configuration

The text of a configuration gives a configuration or a reported failure, unless the program ends
(`WorkspaceConfig.Escapes`): because reading the YAML text does, because two unknown keys have no
order between them, or because an integer has too many digits to be written.  Keys of one sort have
an order (`Yaml.Atom.isSome_lt?_iff`), and then all unknown keys are reported together
(`WorkspaceConfig.parse_fate`).  This is so whatever library reads the text.
-/

namespace BindingSync

open BindingSync.Text
open BindingSync.Yaml (Atom Document Value)

/-! ### Keys that have an order -/

namespace Yaml

/-- What an atom can be put in order with; a time with a zone is no time without one. -/
inductive KeySort where
  | null | quantity | text | bytes | date | time (hasZone : Bool)
deriving DecidableEq, Repr

namespace Atom

/-- The sort of an atom. -/
def keySort : Atom → KeySort
  | null => .null
  | bool _ | int _ | float _ | noNumber _ => .quantity
  | text _ => .text
  | binary _ => .bytes
  | moment (.date _) => .date
  | moment (.timestamp stamp) => .time stamp.zone.isSome

/-- Two atoms are of one sort, and not null. -/
def Comparable (a b : Atom) : Prop :=
  a.keySort = b.keySort ∧ a.keySort ≠ .null

instance (a b : Atom) : Decidable (a.Comparable b) :=
  inferInstanceAs (Decidable (_ ∧ _))

/-- Between atoms of one sort there is an order, and between no others. -/
lemma isSome_lt?_iff {a b : Atom} : (a.lt? b).isSome = true ↔ a.Comparable b := by
  cases a with
  | moment x =>
    cases b with
    | moment y =>
      cases x <;> cases y <;>
        simp [lt?, quantity?, Comparable, keySort, Moment.lt?, Timestamp.isComparable]
    | _ => cases x <;> simp [lt?, quantity?, Comparable, keySort]
  | _ =>
    cases b with
    | moment y => cases y <;> simp [lt?, quantity?, Comparable, keySort]
    | _ => simp [lt?, quantity?, Comparable, keySort]

lemma Comparable.symm {a b : Atom} (h : a.Comparable b) : b.Comparable a :=
  ⟨h.1.symm, h.1 ▸ h.2⟩

/-- Only an integer of too many digits cannot be described. -/
lemma describe?_eq_none_iff {a : Atom} :
    a.describe? = none ↔ ∃ n, a = int n ∧ Integer.isWritable n = false := by
  cases a <;> simp [describe?, Integer.render?]

end Atom

end Yaml

namespace WorkspaceConfig

variable {key : Atom} {keys : List Atom} {pairs : Pairs} {label text name : String}
  {default : WideString} {crash : Crash} {document : Document}

/-! ### Unknown keys -/

lemma exists_insertKey (h : ∀ other ∈ keys, key.Comparable other) :
    ∃ sorted, insertKey key keys = some sorted ∧ sorted.Perm (key :: keys) := by
  induction keys with
  | nil => exact ⟨[key], rfl, .refl _⟩
  | cons first rest ih =>
    obtain ⟨hfirst, hrest⟩ := List.forall_mem_cons.1 h
    obtain ⟨isBelow, hbelow⟩ := Option.isSome_iff_exists.1 (Atom.isSome_lt?_iff.2 hfirst.symm)
    obtain ⟨sorted, hsorted, hperm⟩ := ih hrest
    cases isBelow with
    | true =>
      exact ⟨first :: sorted, by simp [insertKey, hbelow, hsorted],
        (hperm.cons first).trans (.swap key first rest)⟩
    | false => exact ⟨key :: first :: rest, by simp [insertKey, hbelow], .refl _⟩

/-- Keys that have an order between any two of them are put in order. -/
lemma exists_sortKeys (h : keys.Pairwise Atom.Comparable) :
    ∃ sorted, sortKeys keys = some sorted ∧ sorted.Perm keys := by
  induction keys with
  | nil => exact ⟨[], rfl, .refl _⟩
  | cons key rest ih =>
    obtain ⟨hkey, hrest⟩ := List.pairwise_cons.1 h
    obtain ⟨others, hothers, hperm⟩ := ih hrest
    have hall : ∀ other ∈ others, key.Comparable other := fun other hmem =>
      hkey other (hperm.mem_iff.1 hmem)
    obtain ⟨sorted, hsorted, hperm'⟩ := exists_insertKey hall
    refine ⟨sorted, ?_, hperm'.trans (hperm.cons key)⟩
    simpa [sortKeys, hothers, Atom.isSome_lt?_iff, hsorted] using hall

/-- Other keys are not. -/
lemma sortKeys_eq_none (h : ¬keys.Pairwise Atom.Comparable) : sortKeys keys = none := by
  induction keys with
  | nil => exact absurd .nil h
  | cons key rest ih =>
    by_cases hrest : rest.Pairwise Atom.Comparable
    · obtain ⟨others, hothers, hperm⟩ := exists_sortKeys hrest
      have hkey : ¬∀ other ∈ others, key.Comparable other := fun hall =>
        h (hrest.cons fun other hmem => hall other (hperm.mem_iff.2 hmem))
      have hall : others.all (fun other => (key.lt? other).isSome) = false := by
        simpa [Atom.isSome_lt?_iff] using hkey
      rw [sortKeys, hothers, Option.bind_eq_bind, Option.bind_some, hall]
      rfl
    · simp [sortKeys, ih hrest]

/-- The keys of a mapping that are no fields. -/
def unknownKeys (pairs : Pairs) : List Atom :=
  (pairs.map Prod.fst).filter (!isKnown ·)

/-- A field is a text, if it is there. -/
def IsText (pairs : Pairs) (name : String) : Prop :=
  ∀ value, field? pairs name = some value → ∃ text, value = .atom (.text text)

/-! ### Checking the keys -/

lemma checkKeys_of_nil (h : unknownKeys pairs = []) : checkKeys label pairs = .ok () := by
  rw [checkKeys, show (pairs.map Prod.fst).filter (!isKnown ·) = [] from h]
  rfl

lemma checkKeys_of_not_pairwise (h : ¬(unknownKeys pairs).Pairwise Atom.Comparable) :
    checkKeys label pairs = .error (.crash .wrongKind) := by
  have hnone : sortKeys ((pairs.map Prod.fst).filter (!isKnown ·)) = none := sortKeys_eq_none h
  rw [checkKeys, hnone]

/-- Unknown keys that can be put in order are reported, if each of them can be described. -/
lemma exists_checkKeys (label : String) (hne : unknownKeys pairs ≠ [])
    (h : (unknownKeys pairs).Pairwise Atom.Comparable) :
    ∃ sorted : List Atom, sorted.Perm (unknownKeys pairs) ∧
      checkKeys label pairs = match sorted.mapM Atom.describe? with
        | some fields => .error (.reported (.unknownFields label fields))
        | none => .error (.crash .unacceptable) := by
  obtain ⟨sorted, hsorted, hperm⟩ := exists_sortKeys h
  have hkeys : sortKeys ((pairs.map Prod.fst).filter (!isKnown ·)) = some sorted := hsorted
  refine ⟨sorted, hperm, ?_⟩
  cases sorted with
  | nil => exact absurd hperm.symm.eq_nil hne
  | cons first rest =>
    rw [checkKeys, hkeys]
    dsimp only
    cases (first :: rest).mapM Atom.describe? <;> rfl

/-! ### The fields -/

lemma textField_ne_crash (label : String) (pairs : Pairs) (name : String) (default : WideString) :
    textField label pairs name default ≠ .error (.crash crash) := by
  unfold textField
  split <;> simp [report]

lemma exists_textField_iff :
    (∃ text, textField label pairs name default = .ok text) ↔ IsText pairs name := by
  unfold textField IsText
  cases hfield : field? pairs name with
  | none => simp
  | some value =>
    cases value with
    | collection number => simp [report]
    | atom atom => cases atom <;> simp [report]

lemma versionField_eq_crash_iff :
    versionField label pairs = .error (.crash crash) ↔ crash = .unacceptable ∧
      ∃ n, field? pairs "version" = some (.atom (.int n)) ∧ Integer.isWritable n = false := by
  unfold versionField
  cases hfield : field? pairs "version" with
  | none => simp
  | some value =>
    cases value with
    | collection number => simp [report]
    | atom atom =>
      cases atom with
      | int n =>
        cases hwritable : Integer.isWritable n with
        | true => simp [Integer.render?, hwritable, orUnacceptable]
        | false =>
          have hrender : Integer.render? n = none := by simp [Integer.render?, hwritable]
          dsimp only
          rw [hrender]
          constructor
          · intro hcrash
            cases hcrash
            exact ⟨rfl, n, rfl, hwritable⟩
          · rintro ⟨rfl, -⟩
            rfl
      | _ => simp [report]

lemma filesField_ne_crash (label : String) (document : Document) (pairs : Pairs)
    (default : List WideString) :
    filesField label document pairs default ≠ .error (.crash crash) := by
  unfold filesField
  split
  · simp
  · split
    · split <;> simp [report]
    · simp [report]
    · simp [report]

/-- Without unknown keys, only the version can end the program, where it is looked at. -/
lemma ofPairs_eq_crash_iff_of_nil (h : unknownKeys pairs = []) :
    ofPairs label document pairs = .error (.crash crash) ↔
      IsText pairs "bindings-directory" ∧ IsText pairs "platform" ∧ crash = .unacceptable ∧
        ∃ n, field? pairs "version" = some (.atom (.int n)) ∧ Integer.isWritable n = false := by
  rw [ofPairs, checkKeys_of_nil h]
  simp only [ok_bind, bind_eq_error_iff, textField_ne_crash, filesField_ne_crash, false_or,
    versionField_eq_crash_iff]
  constructor
  · rintro ⟨directory, hdirectory, platform, hplatform, hversion | ⟨_, -, _, -, hpure⟩⟩
    · exact ⟨exists_textField_iff.1 ⟨_, hdirectory⟩, exists_textField_iff.1 ⟨_, hplatform⟩, hversion⟩
    · cases hpure
  · rintro ⟨hdirectory, hplatform, hversion⟩
    obtain ⟨directory, hdirectory⟩ := exists_textField_iff.2 hdirectory
    obtain ⟨platform, hplatform⟩ := exists_textField_iff.2 hplatform
    exact ⟨directory, hdirectory, platform, hplatform, .inl hversion⟩

/-- Keys that are not in order decide what becomes of a mapping. -/
lemma ofPairs_of_checkKeys {failure : WorkspaceFailure} (h : checkKeys label pairs = .error failure) :
    ofPairs label document pairs = .error failure := by
  rw [ofPairs, h]
  rfl

/-- Unknown keys of one sort end the program exactly if one of them cannot be described. -/
lemma ofPairs_eq_crash_iff_of_pairwise (hne : unknownKeys pairs ≠ [])
    (h : (unknownKeys pairs).Pairwise Atom.Comparable) :
    ofPairs label document pairs = .error (.crash crash) ↔ crash = .unacceptable ∧
      ∃ n, .int n ∈ unknownKeys pairs ∧ Integer.isWritable n = false := by
  obtain ⟨sorted, hperm, hcheck⟩ := exists_checkKeys label hne h
  have hlong : sorted.mapM Atom.describe? = none ↔
      ∃ n, .int n ∈ unknownKeys pairs ∧ Integer.isWritable n = false := by
    rw [mapM_eq_none_iff]
    constructor
    · rintro ⟨key, hmem, hkey⟩
      obtain ⟨n, rfl, hn⟩ := Atom.describe?_eq_none_iff.1 hkey
      exact ⟨n, hperm.mem_iff.1 hmem, hn⟩
    · rintro ⟨n, hmem, hn⟩
      exact ⟨.int n, hperm.mem_iff.2 hmem, Atom.describe?_eq_none_iff.2 ⟨n, rfl, hn⟩⟩
  cases hfields : sorted.mapM Atom.describe? with
  | none =>
    rw [hfields] at hcheck
    rw [ofPairs_of_checkKeys hcheck]
    constructor
    · rintro ⟨⟩
      exact ⟨rfl, hlong.1 hfields⟩
    · rintro ⟨rfl, -⟩
      rfl
  | some fields =>
    rw [hfields] at hcheck hlong
    rw [ofPairs_of_checkKeys hcheck, ← hlong]
    constructor
    · rintro ⟨⟩
    · rintro ⟨-, ⟨⟩⟩

/-! ### What becomes of a text -/

/-- Only a mapping can end the program once the text is read. -/
lemma exists_mapping_of_ofDocument (h : ofDocument label document = .error (.crash crash)) :
    ∃ pairs, document.collection? document.root = some (.mapping pairs) := by
  unfold ofDocument at h
  split at h
  · cases h
  · split at h
    · exact ⟨_, ‹_›⟩
    · cases h

section Reading

variable [Yaml.Loader]

/-- The text of a configuration ends the program. -/
inductive Escapes (text : String) : Crash → Prop
  /-- Reading the YAML text ends it. -/
  | reading {crash : Crash} (hdocument : Yaml.Loader.load text = .error (.crash crash)) :
      Escapes text crash
  /-- Two unknown keys have no order between them. -/
  | mixedKeys {document : Document} {pairs : Pairs}
      (hdocument : Yaml.Loader.load text = .ok document)
      (hroot : document.collection? document.root = some (.mapping pairs))
      (hkeys : ¬(unknownKeys pairs).Pairwise Atom.Comparable) : Escapes text .wrongKind
  /-- One of the unknown keys is an integer of too many digits. -/
  | longKey {document : Document} {pairs : Pairs} {n : Int}
      (hdocument : Yaml.Loader.load text = .ok document)
      (hroot : document.collection? document.root = some (.mapping pairs))
      (hkeys : (unknownKeys pairs).Pairwise Atom.Comparable) (hkey : .int n ∈ unknownKeys pairs)
      (hlong : Integer.isWritable n = false) : Escapes text .unacceptable
  /-- Everything before the version is in order, and the version is an integer of too many digits. -/
  | longVersion {document : Document} {pairs : Pairs} {n : Int}
      (hdocument : Yaml.Loader.load text = .ok document)
      (hroot : document.collection? document.root = some (.mapping pairs))
      (hkeys : unknownKeys pairs = []) (hdirectory : IsText pairs "bindings-directory")
      (hplatform : IsText pairs "platform")
      (hversion : field? pairs "version" = some (.atom (.int n)))
      (hlong : Integer.isWritable n = false) : Escapes text .unacceptable

lemma parse_of_mapping (hdocument : Yaml.Loader.load text = .ok document)
    (hroot : document.collection? document.root = some (.mapping pairs)) :
    parse text label = ofPairs label document pairs := by
  have hnull : document.root ≠ .atom .null := by
    rintro h
    rw [h] at hroot
    cases hroot
  simp only [parse, hdocument, ofDocument, if_neg hnull, hroot]

/-- A mapping ends the program exactly where its keys or its version do. -/
lemma escapes_iff_of_mapping (hdocument : Yaml.Loader.load text = .ok document)
    (hroot : document.collection? document.root = some (.mapping pairs)) :
    ofPairs label document pairs = .error (.crash crash) ↔ Escapes text crash := by
  -- a text has one document, and a document one root
  have hsame : ∀ {document' : Document} {pairs' : Pairs}, Yaml.Loader.load text = .ok document' →
      document'.collection? document'.root = some (.mapping pairs') → pairs' = pairs := by
    intro document' pairs' hdocument' hroot'
    cases hdocument.symm.trans hdocument'
    cases hroot.symm.trans hroot'
    rfl
  constructor
  · intro hcrash
    by_cases hkeys : (unknownKeys pairs).Pairwise Atom.Comparable
    · by_cases hnil : unknownKeys pairs = []
      · obtain ⟨hdirectory, hplatform, rfl, n, hversion, hlong⟩ :=
          (ofPairs_eq_crash_iff_of_nil hnil).1 hcrash
        exact .longVersion hdocument hroot hnil hdirectory hplatform hversion hlong
      · obtain ⟨rfl, n, hkey, hlong⟩ := (ofPairs_eq_crash_iff_of_pairwise hnil hkeys).1 hcrash
        exact .longKey hdocument hroot hkeys hkey hlong
    · rw [ofPairs_of_checkKeys (checkKeys_of_not_pairwise hkeys)] at hcrash
      cases hcrash
      exact .mixedKeys hdocument hroot hkeys
  · intro hescapes
    cases hescapes with
    | reading hreading => cases hdocument.symm.trans hreading
    | mixedKeys hdocument' hroot' hkeys =>
      cases hsame hdocument' hroot'
      exact ofPairs_of_checkKeys (checkKeys_of_not_pairwise hkeys)
    | longKey hdocument' hroot' hkeys hkey hlong =>
      cases hsame hdocument' hroot'
      exact (ofPairs_eq_crash_iff_of_pairwise (List.ne_nil_of_mem hkey) hkeys).2
        ⟨rfl, _, hkey, hlong⟩
    | longVersion hdocument' hroot' hkeys hdirectory hplatform hversion hlong =>
      cases hsame hdocument' hroot'
      exact (ofPairs_eq_crash_iff_of_nil hkeys).2 ⟨hdirectory, hplatform, rfl, _, hversion, hlong⟩

/-- The text of a configuration ends the program in the ways of `Escapes` and in no other. -/
lemma parse_eq_crash_iff : parse text label = .error (.crash crash) ↔ Escapes text crash := by
  cases hdocument : Yaml.Loader.load text with
  | error failure =>
    cases failure with
    | invalid reason =>
      simp only [parse, hdocument, report]
      constructor
      · rintro ⟨⟩
      · rintro (h | h | h | h) <;> cases hdocument.symm.trans h
    | crash other =>
      simp only [parse, hdocument]
      constructor
      · rintro ⟨⟩
        exact .reading hdocument
      · rintro (h | h | h | h) <;> cases hdocument.symm.trans h
        rfl
  | ok document =>
    by_cases hmapping : ∃ pairs, document.collection? document.root = some (.mapping pairs)
    · obtain ⟨pairs, hroot⟩ := hmapping
      rw [parse_of_mapping hdocument hroot]
      exact escapes_iff_of_mapping hdocument hroot
    · simp only [parse, hdocument]
      constructor
      · intro hcrash
        exact absurd (exists_mapping_of_ofDocument hcrash) hmapping
      · rintro (h | ⟨h, hroot⟩ | ⟨h, hroot⟩ | ⟨h, hroot⟩) <;> cases hdocument.symm.trans h
        all_goals exact absurd ⟨_, hroot⟩ hmapping

/-- What becomes of the text of a configuration: it gives a configuration or a reported failure
unless it ends the program in one of the ways of `Escapes`.  Of a mapping with unknown keys of one
sort all of them are reported, each described. -/
theorem parse_fate (text label : String) :
    (∀ crash, parse text label = .error (.crash crash) ↔ Escapes text crash) ∧
      ∀ document pairs, Yaml.Loader.load text = .ok document →
        document.collection? document.root = some (.mapping pairs) →
        unknownKeys pairs ≠ [] → (unknownKeys pairs).Pairwise Atom.Comparable →
        (∀ key ∈ unknownKeys pairs, key.describe?.isSome) →
        ∃ (keys : List Atom) (fields : List String), keys.Perm (unknownKeys pairs) ∧
          keys.mapM Atom.describe? = some fields ∧
          parse text label = .error (.reported (.unknownFields label fields)) := by
  refine ⟨fun crash => parse_eq_crash_iff, fun document pairs hdocument hroot hne hkeys hshort => ?_⟩
  obtain ⟨sorted, hperm, hcheck⟩ := exists_checkKeys label hne hkeys
  cases hfields : sorted.mapM Atom.describe? with
  | none =>
    obtain ⟨key, hmem, hkey⟩ := mapM_eq_none_iff.1 hfields
    simpa [hkey] using hshort key (hperm.mem_iff.1 hmem)
  | some fields =>
    rw [hfields] at hcheck
    refine ⟨sorted, fields, hperm, hfields, ?_⟩
    rw [parse_of_mapping hdocument hroot, ofPairs_of_checkKeys hcheck]

end Reading

deriving instance DecidableEq for Document

/-- The document of a configuration with two unknown keys. -/
def twoKeys : Document where
  root := .collection 0
  collections := #[some (.mapping [(.text "b", .atom (.int 1)), (.text "a", .atom (.int 2))]),
    none, none, none, none]

/-- Both keys are texts, so they are reported together. -/
theorem parse_fate_twoKeys :
    Yaml.load "b: 1\na: 2\n" = .ok twoKeys ∧
      ∃ (keys : List Atom) (fields : List String), keys.Perm [.text "b", .text "a"] ∧
        keys.mapM Atom.describe? = some fields ∧
        parse "b: 1\na: 2\n" "<string>" =
          .error (.reported (.unknownFields "<string>" fields)) :=
  ⟨by decide +kernel, (parse_fate "b: 1\na: 2\n" "<string>").2 twoKeys
    [(.text "b", .atom (.int 1)), (.text "a", .atom (.int 2))] (by decide +kernel) rfl
    (by decide +kernel) (by decide +kernel) (by decide +kernel)⟩

/-- A number and a text have no order, so the unknown keys are not reported. -/
theorem crashes_mixed :
    parse "1: a\nb: c\n" "<string>" = .error (.crash .wrongKind) := by
  decide +kernel

end WorkspaceConfig

end BindingSync
