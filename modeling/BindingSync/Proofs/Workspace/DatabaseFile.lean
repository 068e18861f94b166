import BindingSync.Proofs.Database.Faults
import BindingSync.Proofs.Workspace.Reading

/-!
# Files that are no databases

A file that is no database is reported, whatever is in it, up to three things that nobody asks for.
`Database.Escapes` lists them: bytes that are no text, an integer that is too long for the language,
and an entry that is asked for what it does not have.  `Database.load_of_isUsable` says that these
are all, and that each of them does end the program.
-/

namespace BindingSync

open BindingSync.Text

namespace Database

/-- The content of a database file ends the program that reads it. -/
inductive Escapes (content : ByteArray) : Crash → Prop
  /-- The content is no text. -/
  | notText (hcontent : decodeText content = none) : Escapes content .undecodable
  | longInteger {text : String} {error : Json.SyntaxError}
      (htext : decodeText content = some text) (hparse : Json.parse text = .error error)
      (hfault : error.fault = .longInteger) : Escapes content .unacceptable
  /-- The document has the right version, but its first fault is not expected. -/
  | unexpected {text : String} {document : Json} (htext : decodeText content = some text)
      (hparse : Json.parse text = .ok document)
      (hversion : Document.field? document "v" = some (.string formatVersion))
      (hsurprise : Document.Surprises document) : Escapes content .missingMember

/-- Only what an entry is asked for in vain ends the program. -/
lemma ofEntry_eq_crash_iff {error : EntryError} {crash : Crash} :
    LoadError.ofEntry error = .crash crash ↔ error = .noMember ∧ crash = .missingMember := by
  cases error <;> simp [LoadError.ofEntry, eq_comm]

/-- One of the failures to read a document ends the program. -/
lemma ofSyntax_eq_crash_iff {text : String} {error : Json.SyntaxError} {crash : Crash} :
    LoadError.ofSyntax text error = .crash crash ↔
      error.fault = .longInteger ∧ crash = .unacceptable := by
  unfold LoadError.ofSyntax
  cases error.fault <;> simp [eq_comm]

/-- The first fault is the one that is found, unless none is. -/
lemma firstError_eq_noMember_iff {document : Json} :
    Document.firstError document = .noMember ↔ Document.Surprises document := by
  rw [← Document.check_eq_noMember_iff, Document.firstError]
  cases Document.check document <;> simp

/-- The version of an object is the one that is written. -/
lemma hasVersion_iff {fields : List (WideString × Json)} :
    Document.toText? ((fields.lookup (.plain "v")).getD .null) = some (.plain formatVersion) ↔
      Document.field? (.object fields) "v" = some (.string formatVersion) := by
  rw [Document.field?]
  cases fields.lookup (.plain "v") with
  | none => simp [Document.toText?]
  | some value => cases value <;> simp [Document.toText?]

/-- A document ends the program exactly if it has the right version and its first fault is not
expected. -/
lemma ofDocument_eq_crash_iff {document : Json} {crash : Crash} :
    ofDocument document = .error (.crash crash) ↔
      Document.field? document "v" = some (.string formatVersion) ∧
        Document.Surprises document ∧ crash = .missingMember := by
  cases document with
  | object fields =>
    rw [ofDocument, ← hasVersion_iff, ← firstError_eq_noMember_iff]
    split
    · next hright =>
      have hright : Document.toText? ((fields.lookup (.plain "v")).getD .null) =
        some (.plain formatVersion) := hright
      rw [iff_true_intro hright, true_and]
      cases hdatabase : Document.toDatabase? (.object fields) with
      | none =>
        dsimp only
        rw [Except.error.injEq, ofEntry_eq_crash_iff]
      | some db =>
        -- Where there is a database, there is nothing that is not expected.
        refine iff_of_false (by simp) ?_
        rintro ⟨hfirst, -⟩
        have hnone := Document.toDatabase?_of_surprises (firstError_eq_noMember_iff.1 hfirst)
        cases hnone.symm.trans hdatabase
    · next hwrong => exact iff_of_false (by simp) fun h => hwrong h.1
  | _ => exact iff_of_false (by simp [ofDocument]) fun h => by cases h.1

section Contents

variable {content : ByteArray} {text : String} {crash : Crash}

lemma escapes_iff_of_notText (hcontent : decodeText content = none) :
    Escapes content crash ↔ crash = .undecodable := by
  constructor
  · intro h
    cases h with
    | notText _ => rfl
    | longInteger htext _ _ => cases hcontent.symm.trans htext
    | unexpected htext _ _ _ => cases hcontent.symm.trans htext
  · rintro rfl
    exact .notText hcontent

/-- A text that is no document escapes by one of its faults. -/
lemma escapes_iff_of_error {error : Json.SyntaxError} (htext : decodeText content = some text)
    (hparse : Json.parse text = .error error) :
    Escapes content crash ↔ error.fault = .longInteger ∧ crash = .unacceptable := by
  constructor
  · intro h
    cases h with
    | notText hcontent => cases htext.symm.trans hcontent
    | longInteger htext' hparse' hfault =>
      obtain rfl := Option.some.inj (htext.symm.trans htext')
      obtain rfl := Except.error.inj (hparse.symm.trans hparse')
      exact ⟨hfault, rfl⟩
    | unexpected htext' hparse' _ _ =>
      obtain rfl := Option.some.inj (htext.symm.trans htext')
      cases hparse.symm.trans hparse'
  · rintro ⟨hfault, rfl⟩
    exact .longInteger htext hparse hfault

/-- A document escapes if it has the right version and its first fault is not expected. -/
lemma escapes_iff_of_ok {document : Json} (htext : decodeText content = some text)
    (hparse : Json.parse text = .ok document) :
    Escapes content crash ↔ Document.field? document "v" = some (.string formatVersion) ∧
      Document.Surprises document ∧ crash = .missingMember := by
  constructor
  · intro h
    cases h with
    | notText hcontent => cases htext.symm.trans hcontent
    | longInteger htext' hparse' _ =>
      obtain rfl := Option.some.inj (htext.symm.trans htext')
      cases hparse.symm.trans hparse'
    | unexpected htext' hparse' hversion hsurprise =>
      obtain rfl := Option.some.inj (htext.symm.trans htext')
      obtain rfl := Except.ok.inj (hparse.symm.trans hparse')
      exact ⟨hversion, hsurprise, rfl⟩
  · rintro ⟨hversion, hsurprise, rfl⟩
    exact .unexpected htext hparse hversion hsurprise

/-- A content ends the program exactly if it is one of those that escape. -/
lemma databaseAt_eq_crash_iff {sandbox : Sandbox} {path : Path} (husable : path.isUsable = true)
    (hread : sandbox.read path = .ok content) :
    sandbox.databaseAt path = .error (.crash crash) ↔ Escapes content crash := by
  rw [Sandbox.databaseAt, Sandbox.textAt, if_pos husable, hread]
  dsimp only
  cases htext : decodeText content with
  | none =>
    rw [escapes_iff_of_notText htext]
    simp [eq_comm]
  | some text =>
    dsimp only
    rw [deserialize]
    cases hparse : Json.parse text with
    | error error => rw [escapes_iff_of_error htext hparse, Except.error.injEq, ofSyntax_eq_crash_iff]
    | ok document => rw [escapes_iff_of_ok htext hparse, ofDocument_eq_crash_iff]

end Contents

/-- Reading a database file gives a database or a reported failure, and leaves everything as it is;
the program ends exactly if the content is one of those that escape. -/
theorem load_of_isUsable {sandbox : Sandbox} {path : Path} (husable : path.isUsable = true) :
    ∃ result, (load path : StateM Sandbox _).run sandbox = (result, sandbox) ∧
      (∀ error, sandbox.read path = .error error → result =
        .error (.reported (.unreadable path.toString (error.describe path)))) ∧
      ∀ content, sandbox.read path = .ok content →
        ∀ crash, result = .error (.crash crash) ↔ Escapes content crash := by
  refine ⟨_, Sandbox.run_load sandbox path, ?_, ?_⟩
  · intro error hread
    rw [Sandbox.databaseAt, Sandbox.textAt, if_pos husable, hread]
  · intro content hread crash
    exact databaseAt_eq_crash_iff husable hread

/-- A sandbox with a file in its root directory. -/
def withFile (content : ByteArray) : Sandbox where
  tree := [(["p.json"], .file content)]

/-- The path of that file. -/
def filePath : Path where
  parts := ["p.json"]

/-- A file with a byte that stands in no text is no database. -/
theorem load_of_isUsable_notText :
    filePath.isUsable = true ∧ (withFile ⟨#[0xff]⟩).read filePath = .ok ⟨#[0xff]⟩ ∧
      Escapes ⟨#[0xff]⟩ .undecodable ∧
      (load filePath : StateM Sandbox _).run (withFile ⟨#[0xff]⟩) =
        (.error (.crash .undecodable), withFile ⟨#[0xff]⟩) := by
  have husable : filePath.isUsable = true := by decide
  have hread : (withFile ⟨#[0xff]⟩).read filePath = .ok ⟨#[0xff]⟩ := by rfl
  have hescapes : Escapes ⟨#[0xff]⟩ .undecodable := .notText (by decide +kernel)
  obtain ⟨result, hrun, -, hcrash⟩ := @load_of_isUsable (withFile ⟨#[0xff]⟩) filePath husable
  refine ⟨husable, hread, hescapes, ?_⟩
  rw [hrun, (hcrash _ hread _).2 hescapes]

/-- A database with a function that is null. -/
def nullFunction : String :=
  "\x7b\"v\":\"1\",\"image-base\":0,\"pointer-size\":4,\"integer-size\":4,\"functions\":[null]\x7d"

/-- A database with a pointer among its types. -/
def pointerType : String :=
  "\x7b\"v\":\"1\",\"image-base\":0,\"pointer-size\":4,\"integer-size\":4,\"types\":[" ++
    "\x7b\"kind\":\"pointer\",\"target\":\x7b\"kind\":\"builtin\",\"name\":\"int\"\x7d,\"length\":4\x7d]\x7d"

/-- The way in which a result ends the program. -/
def crashOf? : Except LoadError Database → Option Crash
  | .error (.crash crash) => some crash
  | _ => none

lemma eq_of_crashOf? {result : Except LoadError Database} {crash : Crash}
    (h : crashOf? result = some crash) : result = .error (.crash crash) := by
  unfold crashOf? at h
  split at h
  · rw [Option.some.inj h]
  · cases h

/-- None of these files is a database, and none of them is reported. -/
theorem load_crashes :
    (load filePath : StateM Sandbox _).run (withFile ⟨#[0xff]⟩) =
        (.error (.crash .undecodable), withFile ⟨#[0xff]⟩) ∧
      (load filePath : StateM Sandbox _).run (withFile nullFunction.toUTF8) =
        (.error (.crash .missingMember), withFile nullFunction.toUTF8) ∧
      (load filePath : StateM Sandbox _).run (withFile pointerType.toUTF8) =
        (.error (.crash .missingMember), withFile pointerType.toUTF8) := by
  have hbytes : crashOf? ((withFile ⟨#[0xff]⟩).databaseAt filePath) = some .undecodable := by
    decide +kernel
  have hnull : crashOf? ((withFile nullFunction.toUTF8).databaseAt filePath) =
      some .missingMember := by decide +kernel
  have hpointer : crashOf? ((withFile pointerType.toUTF8).databaseAt filePath) =
      some .missingMember := by decide +kernel
  refine ⟨?_, ?_, ?_⟩
  · rw [Sandbox.run_load, eq_of_crashOf? hbytes]
  · rw [Sandbox.run_load, eq_of_crashOf? hnull]
  · rw [Sandbox.run_load, eq_of_crashOf? hpointer]

end Database

end BindingSync
