import BindingSync.Proofs.Sync.CutShort

/-!
# What a run leaves alone

A run writes functions at the addresses of its entries and adds to all the rest.  `Database.Frame`
says this of two databases: no function went away or moved or was renamed, only those at some
addresses are different at all, and types, namespaces and categories are where they were, with
new ones behind or between them.

Frames compose, and each piece of a step has one: finding or creating the function, introducing
types, writing the signature.  A step that stops is made of the first two pieces
(`Sync.Halted.frame`), so the same holds of a run that is cut short at any point
(`Sync.frame_of_synchronize`).
-/

namespace BindingSync

open BindingSync.Binding
open BindingSync.Text
open BindingSync.Dialogue (Transcript)

namespace Database

/-- A database has grown into another one, and all functions away from the touched addresses are
as they were. -/
structure Frame (touched : Int → Prop) (db db' : Database) : Prop extends db.Grows db' where
  /-- A function keeps its place and its name, whatever else becomes of it. -/
  kept : ∀ {address old}, db.functionAt? address = some old →
    ∃ new, db'.functionAt? address = some new ∧ new.address = old.address ∧
      new.name = old.name ∧ new.namespacePath = old.namespacePath
  untouched : ∀ {address}, ¬touched address → db'.functionAt? address = db.functionAt? address

namespace Frame

variable {touched : Int → Prop} {a b c : Database}

/-- Where every function is as it was, only the rest has grown. -/
lemma of_functionAt? (hgrows : a.Grows b)
    (h : ∀ address, b.functionAt? address = a.functionAt? address) : Frame touched a b :=
  { hgrows with
    kept := fun {address old} hold => ⟨old, (h address).trans hold, rfl, rfl, rfl⟩
    untouched := fun {address} _ => h address }

/-- Doing nothing leaves everything alone. -/
lemma refl (db : Database) : Frame touched db db :=
  of_functionAt? (.refl db) fun _ => rfl

/-- What two changes leave alone, both of them in a row leave alone. -/
lemma trans (hab : Frame touched a b) (hbc : Frame touched b c) : Frame touched a c :=
  { hab.toGrows.trans hbc.toGrows with
    kept := fun hold => by
      obtain ⟨middle, hmiddle, haddress, hname, hpath⟩ := hab.kept hold
      obtain ⟨new, hnew, haddress', hname', hpath'⟩ := hbc.kept hmiddle
      exact ⟨new, hnew, haddress'.trans haddress, hname'.trans hname, hpath'.trans hpath⟩
    untouched := fun haddress => (hbc.untouched haddress).trans (hab.untouched haddress) }

/-- More addresses may be named than are touched. -/
lemma mono {more : Int → Prop} (h : Frame touched a b)
    (hmore : ∀ address, touched address → more address) : Frame more a b :=
  { h with untouched := fun haddress => h.untouched (mt (hmore _) haddress) }

end Frame

end Database

namespace Sync

open Database (Frame)

variable {before after : Progress} {log : Transcript} {platform : Platform} {cls : ClassDecl}
  {decl : FunctionDecl} {offset : Int}

/-! ### Steps -/

/-- Locating a function touches its address. -/
lemma Located.frame {address : Int} {function : FunctionRecord} {isNew : Bool}
    (h : Located cls decl address before function isNew after) :
    Frame (address = ·) before.db after.db :=
  { h.grows with
    kept := fun {other old} hold => by
      refine ⟨old, ?_, rfl, rfl, rfl⟩
      rw [h.functionAt?]
      split
      · next hother =>
        subst hother
        cases h with
        | found hfound => exact hfound.symm.trans hold
        | created hnone _ => simp [hold] at hnone
      · exact hold
    untouched := fun {other} hother => by rw [h.functionAt?, if_neg hother] }

/-- Introducing types touches no function. -/
lemma Introduces.frame {exprs : List TypeExpr} {placeholders : List NamedType}
    {touched : Int → Prop} (h : Introduces exprs before after placeholders) :
    Frame touched before.db after.db :=
  .of_functionAt? h.grows h.functionAt?

/-- A step touches the address of its declaration. -/
lemma Step.frame (step : Step platform cls decl offset before log after) :
    Frame (step.address = ·) before.db after.db :=
  { step.grows with
    kept := fun {other old} hold => by
      rw [step.functionAt?]
      split
      · next hother =>
        subst hother
        rcases step.function_eq with ⟨hfound, -⟩ | ⟨hnone, -, -⟩
        · cases hfound.symm.trans hold
          exact ⟨_, rfl, by rw [step.result_eq]; rfl, by rw [step.result_eq]; rfl,
            by rw [step.result_eq]; rfl⟩
        · simp [hold] at hnone
      · exact ⟨old, hold, rfl, rfl, rfl⟩
    untouched := fun {other} hother => by rw [step.functionAt?, if_neg hother] }

/-- A step that stops has at most created its function and introduced types. -/
lemma Halted.cases_db {cause : Stop}
    (h : Halted platform cls decl offset before log cause after) :
    after.db = before.db ∨
      ∃ base function isNew start typed exprs placeholders,
        before.db.imageBase = some base ∧
        Located cls decl (base + offset) before function isNew start ∧
        Introduces exprs start typed placeholders ∧ after.db = typed.db := by
  cases h with
  | unplaced _ => exact .inl rfl
  | refused _ _ _ => exact .inl rfl
  | nameless hbase located _ _ introduces =>
    exact .inr ⟨_, _, _, _, _, _, _, hbase, located, introduces, rfl⟩
  | disagreed hbase located introduces _ =>
    exact .inr ⟨_, _, _, _, _, _, _, hbase, located, introduces, rfl⟩
  | crowded hbase located introduces _ _ =>
    exact .inr ⟨_, _, _, _, _, _, _, hbase, located, introduces, rfl⟩

/-- A step that stops touches the address of its declaration, if there is one. -/
lemma Halted.frame {cause : Stop}
    (h : Halted platform cls decl offset before log cause after) :
    Frame (fun address => before.db.imageBase.map (· + offset) = some address)
      before.db after.db := by
  rcases h.cases_db with hdb | ⟨base, _, _, start, typed, _, _, hbase, located, introduces, hdb⟩
  · rw [hdb]
    exact .refl _
  · rw [hdb]
    refine (located.frame.trans introduces.frame).mono fun address haddress => ?_
    rw [hbase, ← haddress]
    rfl

/-! ### Runs -/

/-- The address of an entry; without an image base there is none. -/
def Entry.address? (db : Database) (e : Entry) : Option Int :=
  db.imageBase.map (· + e.offset)

/-- One of the entries has the address. -/
def IsAddressOf (list : List Entry) (db : Database) (address : Int) : Prop :=
  ∃ e ∈ list, e.address? db = some address

/-- Entries stay at their addresses while the database grows. -/
lemma address?_of_grows {db db' : Database} (h : db.Grows db') (e : Entry) :
    e.address? db' = e.address? db := by
  rw [Entry.address?, h.imageBase, Entry.address?]

/-- The step of an entry has the address of the entry. -/
lemma Step.address?_eq {e : Entry}
    (step : Step platform e.cls e.decl e.offset before log after) :
    e.address? before.db = some step.address := by
  rw [Entry.address?, step.imageBase_eq]
  rfl

/-- The addresses of entries stay while the database grows. -/
lemma isAddressOf_of_grows {list : List Entry} {db db' : Database} (h : db.Grows db')
    {address : Int} (haddress : IsAddressOf list db' address) : IsAddressOf list db address := by
  obtain ⟨e, hmem, he⟩ := haddress
  exact ⟨e, hmem, address?_of_grows h e ▸ he⟩

/-- The step of one of the entries touches addresses of the entries. -/
lemma Step.frame_of_mem {list : List Entry} {e : Entry} (hmem : e ∈ list)
    (step : Step platform e.cls e.decl e.offset before log after) :
    Frame (IsAddressOf list before.db) before.db after.db :=
  step.frame.mono fun _ haddress => ⟨e, hmem, haddress ▸ step.address?_eq⟩

/-- Steps that come to their end touch the addresses of their entries. -/
theorem frame_of_returns_each {list : List Entry}
    (h : (each (entry platform) list).Returns before log () after) :
    Frame (IsAddressOf list before.db) before.db after.db :=
  invariant_of_returns_each
    (P := fun progress => Frame (IsAddressOf list before.db) before.db progress.db)
    (fun _ hmem _ _ _ step hframe => hframe.trans <|
      (step.frame_of_mem hmem).mono fun _ => isAddressOf_of_grows hframe.toGrows) h (.refl _)

/-- However a run ends, it touches addresses of its entries. -/
lemma frame_of_ends {files : List Source} {db : Database} {outcome : Outcome Unit}
    (hends : (synchronize platform files db).Ends log outcome) :
    Frame (IsAddressOf (entries platform files) db) db outcome.progress.db :=
  invariant_of_ends
    (P := fun progress => Frame (IsAddressOf (entries platform files) db) db progress.db)
    (fun _ hmem _ _ _ step hframe => hframe.trans <|
      (step.frame_of_mem hmem).mono fun _ => isAddressOf_of_grows hframe.toGrows)
    (fun e hmem _ _ _ _ halted hframe => hframe.trans <|
      halted.frame.mono fun _ haddress => isAddressOf_of_grows hframe.toGrows ⟨e, hmem, haddress⟩)
    hends (.refl db)

/-- However a run ends, functions away from the addresses of its entries are as they were, those
that were there keep their places and names, and types, namespaces and categories are still
there in their order. -/
theorem frame_of_synchronize {files : List Source} {db : Database} {outcome : Outcome Unit}
    (hends : (synchronize platform files db).Ends log outcome) :
    Frame (IsAddressOf (entries platform files) db) db outcome.progress.db ∧
      db.categories.toList.Sublist outcome.progress.db.categories.toList :=
  ⟨frame_of_ends hends, Keyed.sublist_of_contains (frame_of_ends hends).categories⟩

/-- A run over two files, the second of which cannot be read, stops after it has changed one
function of `playerDatabase` and added another one. -/
theorem frame_of_synchronize_player :
    ∃ files log outcome,
      (synchronize .windows files playerDatabase).Ends log outcome ∧
      outcome.isDone = false ∧ outcome.progress.added = ["Player::team"] ∧
      outcome.progress.updated = ["Player::update"] ∧
      Frame (IsAddressOf (entries .windows files) playerDatabase) playerDatabase
        outcome.progress.db ∧
      playerDatabase.categories.toList.Sublist outcome.progress.db.categories.toList := by
  let missing : Source := ⟨"missing.bro", .error (.failed (.unreadable "missing.bro" "gone"))⟩
  let run := (synchronize .windows [playerFile, missing] playerDatabase).runFixed .useIncoming
  obtain ⟨log, hends, -⟩ := Dialogue.exists_ends_runFixed .useIncoming
    (synchronize .windows [playerFile, missing] playerDatabase)
  obtain ⟨hfailed, hadded, hupdated⟩ : run.isDone = false ∧
      run.progress.added = ["Player::team"] ∧ run.progress.updated = ["Player::update"] := by
    decide +kernel
  exact ⟨[playerFile, missing], log, run, hends, hfailed, hadded, hupdated,
    frame_of_synchronize hends⟩

end Sync

end BindingSync
