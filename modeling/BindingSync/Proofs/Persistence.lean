import BindingSync.Proofs.Database.Loading
import BindingSync.Proofs.Sync.Soundness

/-!
# Persistence

A database is written to a text and restored from it.  `Database.Built` says what databases there
are: new ones and loaded ones, and whatever the operations on databases make of them, runs among
them.  Each operation keeps databases sound, so that all of them are.

The text of a sound database restores it, unless there is no text: an integer of too many digits is
not written.  A database that was loaded from a text has no such integer, because none is read.
-/

namespace BindingSync

open BindingSync.Text
open BindingSync.Dialogue (Transcript)
open Document

namespace Database

/-! ### What is built -/

/-- The databases that can be made, from new or loaded ones on, by the operations on databases.
The names that are given to them are joined strings, the namespaces are those of the database, and
the builtin types are those that every database has. -/
inductive Built : Database → Prop
  | new (imageBase : Option Int) (pointerSize integerSize : Int) :
      Built { imageBase, pointerSize, integerSize }
  | loaded {text : String} {db : Database} (h : deserialize text = .ok db) : Built db
  | createFunction {db db' : Database} (h : Built db) {address : Int} {name : WideString}
      (hname : name.IsJoined) (hcreated : db.createFunction? address name = some db') : Built db'
  | moveFunction {db : Database} (h : Built db) {function : FunctionRecord}
      (hfunction : db.functionAt? function.address = some function) {path : List WideString}
      (hknown : (db.namespaceAt? path).isSome) :
      Built (db.putFunction (function.inNamespace path))
  | updateFunction {db : Database} (h : Built db) {function : FunctionRecord}
      (hfunction : db.functionAt? function.address = some function)
      {convention : Option WideString} (hconvention : ∀ name ∈ convention, name.IsJoined)
      {returnType : Option DataType} (hreturn : ∀ type ∈ returnType, type.Storable)
      {params : List Parameter} (hparams : ∀ param ∈ params, param.Storable)
      (mode : StorageMode) (source : SourceType) :
      Built (db.putFunction (function.withSignature convention returnType params mode source))
  | createNamespace {db db' : Database} (h : Built db) {parent : List WideString}
      (hparent : parent = [] ∨ (db.namespaceAt? parent).isSome) {name : WideString}
      (hname : name.IsJoined) {isClass : Bool}
      (hcreated : db.createNamespace ⟨parent ++ [name], isClass⟩ = .ok db') : Built db'
  | createCategory {db : Database} (h : Built db) {category : List WideString}
      (hjoined : IsJoinedPath category) : Built (db.createCategory category)
  | createType {db db' : Database} (h : Built db) {type : NamedType} (hstorable : type.Storable)
      (hcreated : db.createType type = .ok db') : Built db'
  | synchronize {db : Database} (h : Built db) {platform : Platform}
      {files : List Sync.Source} {log : Transcript} {outcome : Outcome Unit}
      (hends : (synchronize platform files db).Ends log outcome) : Built outcome.progress.db

/-- A database that is built is sound. -/
theorem sound_of_built {db : Database} (h : db.Built) : db.Sound := by
  induction h with
  | new imageBase pointerSize integerSize => exact sound_new imageBase pointerSize integerSize
  | loaded h => exact sound_of_deserialize h
  | createFunction _ hname hcreated ih =>
    unfold createFunction? at hcreated
    split at hcreated
    · cases hcreated
    · cases hcreated
      exact ih.putFunction ⟨hname, by simp, by simp, by simp, by simp⟩ (by simp)
  | moveFunction _ hfunction hknown ih =>
    obtain ⟨-, hjoined⟩ := ih.scope hknown
    obtain ⟨hstorable, -⟩ := ih.functions _ (Keyed.mem_of_get? hfunction).1
    refine ih.putFunction (hstorable.inNamespace hjoined) fun other hother => ?_
    simp only [FunctionRecord.inNamespace] at hother
    split at hother
    · cases hother
    · cases hother
      exact hknown
  | updateFunction _ hfunction hconvention hreturn hparams mode source ih =>
    obtain ⟨hstorable, hscope⟩ := ih.functions _ (Keyed.mem_of_get? hfunction).1
    exact ih.putFunction (hstorable.withSignature hconvention hreturn hparams mode source) hscope
  | createNamespace _ hparent hname hcreated ih =>
    obtain ⟨hnew, rfl⟩ := eq_addNamespace_of_createNamespace hcreated
    refine ih.addNamespace (fun segment hsegment => ?_) (by simp) hnew (by simpa using hparent)
    rcases List.mem_append.1 hsegment with hsegment | hsegment
    · rcases hparent with rfl | hknown
      · cases hsegment
      · exact (ih.scope hknown).2 segment hsegment
    · rwa [List.mem_singleton.1 hsegment]
  | createCategory _ hjoined ih => exact ih.createCategory hjoined
  | createType _ hstorable hcreated ih =>
    obtain ⟨hnew, rfl⟩ := eq_addType_of_createType hcreated
    exact ih.addType hstorable hnew
  | synchronize _ hends ih => exact (Sync.sound_of_synchronize ih hends).2

/-! ### Writing and reading back -/

/-- A sound database is restored from its text exactly if no integer is too long to be written. -/
lemma restored_iff {db : Database} (h : db.Sound) :
    (∃ text, db.serialize? = some text ∧ deserialize text = .ok db) ↔
      (ofDatabase db).isWritable = true := by
  unfold serialize?
  split
  · next hshort => simp [hshort, deserialize_serialize h hshort]
  · next hlong => simp [hlong]

/-- A database that is built is restored from its text exactly if no integer is too long to be
written.  One that was loaded from a text always is. -/
theorem restored_of_built :
    (∀ {db : Database}, db.Built →
      ((∃ text, db.serialize? = some text ∧ deserialize text = .ok db) ↔
        (ofDatabase db).isWritable = true)) ∧
    ∀ {text : String} {db : Database}, deserialize text = .ok db →
      ∃ again, db.serialize? = some again ∧ deserialize again = .ok db := by
  refine ⟨fun h => restored_iff (sound_of_built h), fun h => ?_⟩
  exact (restored_iff (sound_of_deserialize h)).2 (readable_of_deserialize h).isWritable

/-- A database with a method of a class, which has been moved there and got its signature. -/
def ofMethod : Database :=
  let db := ({} : Database).addNamespace ⟨["PlayerObject"], true⟩
  let method : FunctionRecord := { address := 0x401000, name := "pushButton" }
  let moved := method.inNamespace ["PlayerObject"]
  let this : Parameter :=
    { name := some "this", type := .pointer (.named ⟨.struct, ⟨[], "PlayerObject"⟩, 0⟩) 4 }
  ((db.putFunction method).putFunction moved).putFunction
    (moved.withSignature (some "__thiscall") none [this] .dynamic .analysis)

/-- The database is made step by step. -/
lemma built_ofMethod : ofMethod.Built := by
  have hnew : ({} : Database).Built := .new (some 0x400000) 4 4
  have hclass : (({} : Database).addNamespace ⟨["PlayerObject"], true⟩).Built :=
    @Built.createNamespace _ _ hnew [] (.inl rfl) "PlayerObject" (by simp) true rfl
  have hmethod := @Built.createFunction _ _ hclass 0x401000 "pushButton" (by simp) rfl
  have hmoved := @Built.moveFunction _ hmethod _ (by rw [functionAt?_putFunction, if_pos rfl])
    ["PlayerObject"] rfl
  refine hmoved.updateFunction (by rw [functionAt?_putFunction]; exact if_pos rfl) (by simp)
    (by simp) ?_ .dynamic .analysis
  have hstorable : NamedType.Storable ⟨.struct, ⟨[], "PlayerObject"⟩, 0⟩ :=
    ⟨by simp [IsJoinedPath], by simp⟩
  simpa using ⟨by simp, .pointer (.named hstorable) 4, by simp⟩

/-- The database is restored from its text, and once it is loaded from there, it is again. -/
theorem restored_of_built_ofMethod :
    (ofMethod.Built ∧
      ∃ text, ofMethod.serialize? = some text ∧ deserialize text = .ok ofMethod) ∧
    (deserialize ofMethod.serialize = .ok ofMethod ∧
      ∃ again, ofMethod.serialize? = some again ∧ deserialize again = .ok ofMethod) := by
  have hshort : (ofDatabase ofMethod).isWritable = true := by decide
  have hread : deserialize ofMethod.serialize = .ok ofMethod :=
    deserialize_serialize (sound_of_built built_ofMethod) hshort
  exact ⟨⟨built_ofMethod, (restored_of_built.1 built_ofMethod).2 hshort⟩,
    hread, restored_of_built.2 hread⟩

/-! ### Long integers -/

/-- A power of ten has one digit more than its exponent says. -/
lemma not_isWritable_pow {count : Nat} (h : Integer.maxDigits ≤ count) :
    ¬ Integer.isWritable (10 ^ count) = true := by
  rw [Json.isWritable_iff, Int.natAbs_pow, Nat.not_lt]
  exact Nat.pow_le_pow_right (by decide) h

/-- A new database with an image base of one digit more than is written. -/
def farAway : Database where
  imageBase := some (10 ^ Integer.maxDigits)

/-- The database is built, but it has no text. -/
theorem not_restored_farAway : farAway.Built ∧ farAway.serialize? = none := by
  refine ⟨.new _ 4 4, if_neg fun hshort => ?_⟩
  have himage := Json.haveWritable_iff.1 hshort ("image-base", .int (10 ^ Integer.maxDigits))
    (by simp [farAway, ofImageBase])
  exact not_isWritable_pow (Nat.le_refl _) himage

end Database

end BindingSync
