import BindingSync.Proofs.Persistence
import BindingSync.Proofs.Sync.Signatures

/-!
# Histories of databases

A database lives through many runs, and between them it is written to a text and read back.
`Database.Reachable` says what such a history may be: it begins with a new database, every run
goes on with what the run before it left, whether that came to its end, was aborted or failed, and
a reload goes on with what was read.

Every database of a history is coherent (`Database.coherent_of_reachable`).  Two invariants carry
this through the runs: soundness, from which the tables fit each other, and that the types in
signatures are stored.  A reload changes nothing, because a sound database is what its text says.
-/

namespace BindingSync

open BindingSync.Dialogue (Transcript)
open BindingSync.Sync (Source playerFile)

namespace Database

/-- The databases that come of a new one by runs, however they end, and by reloads. -/
inductive Reachable : Database → Prop
  | new (imageBase : Option Int) (pointerSize integerSize : Int) :
      Reachable { imageBase, pointerSize, integerSize }
  | synchronize {db : Database} (h : Reachable db) {platform : Platform} {files : List Source}
      {log : Transcript} {outcome : Outcome Unit}
      (hends : (synchronize platform files db).Ends log outcome) : Reachable outcome.progress.db
  | reload {db found : Database} (h : Reachable db) {text : String}
      (hwrite : db.serialize? = some text) (hread : deserialize text = .ok found) :
      Reachable found

/-- A new database has no signatures. -/
lemma hasStoredSignatures_new (imageBase : Option Int) (pointerSize integerSize : Int) :
    HasStoredSignatures { imageBase, pointerSize, integerSize } := by
  simp [HasStoredSignatures]

/-- A database of a history is sound, and the types in its signatures are stored. -/
lemma sound_of_reachable {db : Database} (h : db.Reachable) :
    db.Sound ∧ db.HasStoredSignatures := by
  induction h with
  | new imageBase pointerSize integerSize =>
    exact ⟨sound_new imageBase pointerSize integerSize,
      hasStoredSignatures_new imageBase pointerSize integerSize⟩
  | synchronize _ hends ih =>
    exact ⟨(Sync.sound_of_synchronize ih.1 hends).2, Sync.hasStoredSignatures_of_ends hends ih.2⟩
  | reload _ hwrite hread ih =>
    rwa [eq_of_deserialize_serialize? ih.1 hwrite hread]

/-- Every database of a history is coherent. -/
theorem coherent_of_reachable {db : Database} (h : db.Reachable) : db.Coherent :=
  coherent_of_sound (sound_of_reachable h).1 (sound_of_reachable h).2

/-- A binding file with a parameter for which there is no register. -/
def waitFile : Source where
  label := "clock.bro"
  text := .ok "class gd::Clock \x7b\n  void wait(longdouble seconds) = win 0x30;\n\x7d\n"

/-- A run that failed in the middle of its last function leaves a coherent database, and so does
the reload after it. -/
theorem coherent_of_reachable_wait :
    ∃ (outcome : Outcome Unit) (text : String) (found : Database),
      outcome.isDone = false ∧ outcome.progress.added = ["Player::update", "Player::team"] ∧
      outcome.progress.db.functions.toList.map FunctionRecord.qualifiedName =
        ["Player::update", "Player::team", "gd::Clock::wait"] ∧
      outcome.progress.db.Reachable ∧ outcome.progress.db.serialize? = some text ∧
      deserialize text = .ok found ∧ found.Reachable ∧ found.Coherent := by
  let run := (synchronize .windows [playerFile, waitFile] {}).runFixed .useIncoming
  obtain ⟨log, hends, -⟩ := Dialogue.exists_ends_runFixed .useIncoming
    (synchronize .windows [playerFile, waitFile] {})
  obtain ⟨hfailed, hadded, hnames, hshort⟩ : run.isDone = false ∧
      run.progress.added = ["Player::update", "Player::team"] ∧
      run.progress.db.functions.toList.map FunctionRecord.qualifiedName =
        ["Player::update", "Player::team", "gd::Clock::wait"] ∧
      (Document.ofDatabase run.progress.db).isWritable = true := by decide +kernel
  have hrun : run.progress.db.Reachable := .synchronize (.new (some 0x400000) 4 4) hends
  obtain ⟨text, hwrite, hread⟩ := (restored_iff (sound_of_reachable hrun).1).2 hshort
  have hreload : run.progress.db.Reachable := hrun.reload hwrite hread
  exact ⟨run, text, run.progress.db, hfailed, hadded, hnames, hrun, hwrite, hread, hreload,
    coherent_of_reachable hreload⟩

end Database

end BindingSync
