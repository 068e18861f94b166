import BindingSync.Proofs.Sync.Settled

/-!
# Synchronizing twice

A run that comes to its end and keeps nothing against the binding files settles every entry
(`Sync.settled_of_mem`).  Entries that are settled have nothing left to do: a run over them is
silent, whoever would answer, and leaves the database as it is (`Sync.silent_of_settled`).
Hence a second run over the same files changes nothing (`Sync.synchronize_idempotent`).

What may come again are the warnings about parameters of unknown length on the stack, because
these are about the signature and not about a change.
-/

namespace BindingSync.Sync

open BindingSync.Text
open BindingSync.Dialogue (Transcript)

variable {before after : Progress} {log : Transcript} {platform : Platform} {list : List Entry}

/-! ### The first run -/

/-- After a run that kept nothing, every entry is settled in its function. -/
theorem settled_of_mem {base : Int}
    (h : (each (entry platform) list).Returns before log () after)
    (hbase : before.db.imageBase = some base)
    (hdistinct : (list.map Entry.offset).Nodup)
    (hlog : ∀ asked ∈ log, asked.2 ≠ some .keepExisting) {e : Entry} (hmem : e ∈ list) :
    ∃ function, after.db.functionAt? (base + e.offset) = some function ∧
      Settled platform e.cls e.decl after.db function := by
  obtain ⟨start, finish, part, step, hstep, -, hgrows, -, hresult, hpart⟩ :=
    exists_step_of_mem h hbase hdistinct hmem
  have haddress : step.address = base + e.offset := by rw [Step.address, hstep]
  refine ⟨step.result, haddress ▸ hresult, ?_⟩
  exact (step.settled fun asked hasked => hlog asked (hpart hasked)).of_grows hgrows

/-! ### The second run -/

/-- A run over settled entries asks nothing and changes nothing; it can only warn about
parameters of unknown length. -/
theorem silent_of_settled {base : Int} (hbase : before.db.imageBase = some base)
    (h : ∀ e ∈ list, ∃ function, before.db.functionAt? (base + e.offset) = some function ∧
      Settled platform e.cls e.decl before.db function) :
    ∃ raised, (∀ warning ∈ raised, ∃ location param,
        warning = .undefinedParameter location param) ∧
      each (entry platform) list before = .done (.done () (warned raised before)) := by
  induction list generalizing before with
  | nil =>
    refine ⟨[], by simp, ?_⟩
    rw [warned, List.append_nil]
    rfl
  | cons first rest ih =>
    obtain ⟨⟨function, hfunction, hsettled⟩, hrest⟩ := List.forall_mem_cons.1 h
    obtain ⟨raised, hraised, hfirst⟩ := addressed_of_settled hbase hfunction hsettled
    obtain ⟨others, hothers, hlater⟩ := @ih (warned raised before) hbase hrest
    refine ⟨raised ++ others, fun warning hmem => ?_, ?_⟩
    · rcases List.mem_append.1 hmem with hmem | hmem
      · obtain ⟨param, rfl⟩ := hraised warning hmem
        exact ⟨_, param, rfl⟩
      · exact hothers warning hmem
    · rw [each, entry, bind_of_done hfirst, hlater]
      simp only [warned, List.append_assoc]

/-- If the entries have distinct offsets, and no conflict was answered by keeping what was there,
a run that came to its end has nothing left to do: a second run asks nothing, adds and updates
no function, creates no type and leaves the database as it is. -/
theorem synchronize_idempotent {files : List Source} {db : Database} {log : Transcript}
    {progress : Progress}
    (hends : (synchronize platform files db).Ends log (.done () progress))
    (hdistinct : ((entries platform files).map Entry.offset).Nodup)
    (hlog : ∀ asked ∈ log, asked.2 ≠ some .keepExisting) :
    ∃ warnings, (∀ warning ∈ warnings, ∀ path kind, warning ≠ .newType path kind) ∧
      synchronize platform files progress.db =
        .done (.done () { db := progress.db, added := [], updated := [], warnings }) := by
  have hreadable := readable_of_returns hends
  have hreturns := returns_each_of_returns_sources hends
  have hagain : ∃ raised, (∀ warning ∈ raised, ∃ location param,
        warning = .undefinedParameter location param) ∧
      each (entry platform) (entries platform files) { db := progress.db } =
        .done (.done () (warned raised { db := progress.db })) := by
    cases hentries : entries platform files with
    | nil => exact ⟨[], by simp, rfl⟩
    | cons first rest =>
      rw [hentries] at hreturns hdistinct
      obtain ⟨base, hbase⟩ := exists_imageBase_of_mem hreturns List.mem_cons_self
      have hgrows := grows_of_returns_each hreturns
      exact silent_of_settled (hgrows.imageBase.trans hbase) fun e hmem =>
        settled_of_mem hreturns hbase hdistinct hlog hmem
  obtain ⟨raised, hraised, hsilent⟩ := hagain
  refine ⟨raised, fun warning hmem path kind heq => ?_, ?_⟩
  · obtain ⟨location, param, rfl⟩ := hraised warning hmem
    cases heq
  · rw [synchronize, sources_eq_each hreadable, hsilent]
    rfl

/-- The user's parameter is given up for the declared one; a second run does nothing more. -/
theorem synchronize_idempotent_player :
    ∃ log progress warnings,
      (synchronize .windows [playerFile] playerDatabase).Ends log (.done () progress) ∧
      ((entries .windows [playerFile]).map Entry.offset).Nodup ∧
      (∀ asked ∈ log, asked.2 ≠ some .keepExisting) ∧
      progress.added = ["Player::team"] ∧ progress.updated = ["Player::update"] ∧
      (∀ warning ∈ warnings, ∀ path kind, warning ≠ .newType path kind) ∧
      synchronize .windows [playerFile] progress.db =
        .done (.done () { db := progress.db, added := [], updated := [], warnings }) := by
  obtain ⟨log, hends, hall⟩ :=
    Dialogue.exists_ends_runFixed .useIncoming (synchronize .windows [playerFile] playerDatabase)
  have hdone : ((synchronize .windows [playerFile] playerDatabase).runFixed .useIncoming).isDone =
      true := by decide +kernel
  rw [Outcome.eq_done_of_isDone hdone] at hends
  have hdistinct : ((entries .windows [playerFile]).map Entry.offset).Nodup := by decide +kernel
  have hlog : ∀ asked ∈ log, asked.2 ≠ some .keepExisting := fun asked hasked => by
    rw [hall asked hasked]
    decide
  obtain ⟨warnings, hwarnings, hagain⟩ := synchronize_idempotent hends hdistinct hlog
  exact ⟨log, _, warnings, hends, hdistinct, hlog, by decide +kernel, by decide +kernel,
    hwarnings, hagain⟩

end BindingSync.Sync
