import BindingSync.Proofs.Sync.Frame

/-!
# The summary of a run

While it goes on, a run notes which functions it adds and which ones it updates.  Each note is
taken at a single step, by a look at the function before and after that step.  If no two entries
have the same offset, the notes say what is different between the databases before and after the
whole run, in the order of the entries (`Sync.changes_of_synchronize`): what stands at the address
of an entry is changed by the step of this entry only.

The same argument serves for both kinds of notes, and it goes by induction on the entries
(`Sync.reports_of_returns_each`).  A run that was aborted did not touch the functions of the
entries that it did not come through, so these are neither noted nor different.
-/

namespace BindingSync.Sync

open BindingSync.Binding
open BindingSync.Dialogue (Transcript)
open BindingSync.Database (Frame)

variable {before after : Progress} {log : Transcript} {platform : Platform} {list : List Entry}

/-! ### Changes -/

/-- The function at the address of an entry. -/
def Entry.function? (db : Database) (e : Entry) : Option FunctionRecord :=
  (e.address? db).bind db.functionAt?

/-- There was no function, and now there is one. -/
def isAddition (old new : Option FunctionRecord) : Bool :=
  old.isNone && new.isSome

/-- There was a function, and it is not the same any more. -/
def isUpdate (old new : Option FunctionRecord) : Bool :=
  old.isSome && new ≠ old

/-- The names of the entries, in order, whose functions changed in some way. -/
def report (change : Option FunctionRecord → Option FunctionRecord → Bool)
    (before after : Database) (list : List Entry) : List String :=
  (list.filter fun e => change (e.function? before) (e.function? after)).map Entry.location

/-- A report depends on the functions of its entries only. -/
lemma report_congr {change : Option FunctionRecord → Option FunctionRecord → Bool}
    {a a' b b' : Database} (hold : ∀ e ∈ list, e.function? a' = e.function? a)
    (hnew : ∀ e ∈ list, e.function? b' = e.function? b) :
    report change a' b' list = report change a b list := by
  rw [report, List.filter_congr fun e hmem => by rw [hold e hmem, hnew e hmem], report]

/-- Nothing is reported if no function is different. -/
lemma report_eq_nil {change : Option FunctionRecord → Option FunctionRecord → Bool}
    (hchange : ∀ function, change function function = false) {a b : Database}
    (h : ∀ e ∈ list, e.function? b = e.function? a) : report change a b list = [] := by
  rw [report, List.filter_eq_nil_iff.2 fun e hmem => by simp [h e hmem, hchange], List.map_nil]

/-- Two lists of entries in a row are reported in a row. -/
lemma report_append (change : Option FunctionRecord → Option FunctionRecord → Bool)
    (a b : Database) (first second : List Entry) :
    report change a b (first ++ second) = report change a b first ++ report change a b second := by
  rw [report, List.filter_append, List.map_append, report, report]

/-- The function of an entry is as it was if other offsets were touched. -/
lemma function?_of_frame {db db' : Database} (h : Frame (IsAddressOf list db) db db') {e : Entry}
    (hfresh : e.offset ∉ list.map Entry.offset) : e.function? db' = e.function? db := by
  rw [Entry.function?, address?_of_grows h.toGrows, Entry.function?]
  cases hbase : db.imageBase with
  | none => simp [Entry.address?, hbase]
  | some base =>
    simp only [Entry.address?, hbase, Option.map_some, Option.bind_some]
    refine h.untouched ?_
    rintro ⟨other, hmem, hother⟩
    have hoffset : other.offset = e.offset := by simpa [Entry.address?, hbase] using hother
    exact hfresh (hoffset ▸ List.mem_map_of_mem hmem)

/-- A function that is different belongs to an entry that was added or updated. -/
lemma exists_change_of_frame {db db' : Database} (h : Frame (IsAddressOf list db) db db')
    {address : Int} (hne : db'.functionAt? address ≠ db.functionAt? address) :
    ∃ e ∈ list, e.address? db = some address ∧
      (isAddition (e.function? db) (e.function? db') = true ∨
        isUpdate (e.function? db) (e.function? db') = true) := by
  obtain ⟨e, hmem, he⟩ : IsAddressOf list db address := by
    by_contra hfree
    exact hne (h.untouched hfree)
  have hold : e.function? db = db.functionAt? address := by rw [Entry.function?, he]; rfl
  have hnew : e.function? db' = db'.functionAt? address := by
    rw [Entry.function?, address?_of_grows h.toGrows, he]
    rfl
  refine ⟨e, hmem, he, ?_⟩
  rw [hold, hnew]
  cases hfunction : db.functionAt? address with
  | none =>
    rw [hfunction] at hne
    exact .inl (by simpa [isAddition, Option.isSome_iff_ne_none] using hne)
  | some old =>
    rw [hfunction] at hne
    exact .inr (by simpa [isUpdate] using hne)

/-! ### Notes -/

namespace Step

variable {e : Entry} (step : Step platform e.cls e.decl e.offset before log after)

/-- Before its step, an entry has a function unless the step creates it. -/
lemma function?_before : e.function? before.db =
    if step.isNew then none else some step.function := by
  rw [Entry.function?, step.address?_eq, Option.bind_some]
  rcases step.function_eq with ⟨hfound, hold⟩ | ⟨hnone, -, hnew⟩
  · simp [hfound, hold]
  · simp [hnone, hnew]

/-- After its step, an entry has the function that the step wrote. -/
lemma function?_after : e.function? after.db = some step.result := by
  rw [Entry.function?, address?_of_grows step.grows, step.address?_eq, Option.bind_some,
    step.functionAt?, if_pos rfl]

/-- Until a step takes its note, the notes are what they were. -/
lemma notes_resolved :
    step.resolved.added = before.added ∧ step.resolved.updated = before.updated := by
  obtain ⟨_, _, _, _, start, located, resolved, resolving, _⟩ := step
  cases located with
  | found _ => exact ⟨resolving.added, resolving.updated⟩
  | created _ _ => exact ⟨resolving.added, resolving.updated⟩

include step

/-- A step notes its function as added if there was none before. -/
lemma added_eq : after.added = before.added ++ report isAddition before.db after.db [e] := by
  rw [report, List.filter_singleton, step.function?_before, step.function?_after]
  conv_lhs => rw [step.after_eq, added_noted]
  cases step.isNew <;> simp [isAddition, warned, step.notes_resolved, Entry.location]

/-- A step notes its function as updated if there was another one before. -/
lemma updated_eq : after.updated = before.updated ++ report isUpdate before.db after.db [e] := by
  rw [report, List.filter_singleton, step.function?_before, step.function?_after]
  conv_lhs => rw [step.after_eq, updated_noted]
  cases step.isNew with
  | true => simp [isUpdate, warned, step.notes_resolved]
  | false =>
    by_cases hsame : step.result = step.function <;>
      simp [isUpdate, warned, step.notes_resolved, Entry.location, hsame]

end Step

/-- If each step reports its own change, steps that come to their end report theirs in a row. -/
theorem reports_of_returns_each {field : Progress → List String}
    {change : Option FunctionRecord → Option FunctionRecord → Bool}
    (hstep : ∀ {e : Entry} {before after : Progress} {log : Transcript},
      Step platform e.cls e.decl e.offset before log after →
        field after = field before ++ report change before.db after.db [e])
    (h : (each (entry platform) list).Returns before log () after)
    (hdistinct : (list.map Entry.offset).Nodup) :
    field after = field before ++ report change before.db after.db list := by
  induction list generalizing before log with
  | nil =>
    obtain ⟨-, -, rfl⟩ := returns_pure_iff.1 h
    simp [report]
  | cons first rest ih =>
    obtain ⟨_, between, _, -, ⟨step⟩, hrest⟩ := returns_each_cons h
    obtain ⟨hfresh, hdistinct'⟩ := List.nodup_cons.1 hdistinct
    -- The others do not touch the function of the first entry, nor its step theirs.
    have hfirst : ∀ e ∈ [first], e.function? after.db = e.function? between.db := by
      simpa using function?_of_frame (frame_of_returns_each hrest) hfresh
    have hothers : ∀ e ∈ rest, e.function? between.db = e.function? before.db := fun e hmem =>
      function?_of_frame (step.frame_of_mem (List.mem_singleton_self first)) fun he =>
        hfresh (List.mem_singleton.1 he ▸ List.mem_map_of_mem hmem)
    calc field after
        = field between ++ report change between.db after.db rest := ih hrest hdistinct'
      _ = field before ++ report change before.db between.db [first] ++
            report change between.db after.db rest := by rw [hstep step]
      _ = field before ++ report change before.db after.db [first] ++
            report change before.db after.db rest := by
          rw [report_congr (fun _ _ => rfl) hfirst, report_congr hothers fun _ _ => rfl]
      _ = field before ++ report change before.db after.db (first :: rest) := by
          rw [List.append_assoc, ← report_append, List.singleton_append]

/-! ### Whole runs -/

/-- A run that came to its end or was aborted came through some of the entries; after that it
changed no function and took no note. -/
lemma exists_handled_of_ends {files : List Source} {db : Database} {outcome : Outcome Unit}
    (hends : (synchronize platform files db).Ends log outcome)
    (houtcome : outcome.isDone = true ∨ outcome.abortedAt?.isSome = true) :
    ∃ handled rest first between, entries platform files = handled ++ rest ∧
      (each (entry platform) handled).Returns { db } first () between ∧
      outcome.progress.added = between.added ∧ outcome.progress.updated = between.updated ∧
      ∀ e : Entry, e.function? outcome.progress.db = e.function? between.db := by
  cases outcome with
  | done _ progress =>
    exact ⟨_, [], log, progress, (List.append_nil _).symm, returns_each_of_returns_sources hends,
      rfl, rfl, fun _ => rfl⟩
  | stopped cause progress =>
    obtain ⟨location, hlocation⟩ :=
      Option.isSome_iff_exists.1 (houtcome.resolve_left Bool.false_ne_true)
    cases Outcome.eq_stopped_of_abortedAt? hlocation
    generalize hcause : Stop.aborted location = cause at hends
    have hstops : (sources platform files).Stops { db } log cause progress := hends
    cases cutShort_of_stops hstops with
    | atFile hentries _ _ hhandled =>
      exact ⟨_, _, _, progress, hentries, hhandled, rfl, rfl, fun _ => rfl⟩
    | atEntry hentries hhandled hstop =>
      obtain ⟨-, _, introduces⟩ := introduces_of_stops_aborted (hcause ▸ hstop)
      exact ⟨_, _, _, _, hentries, hhandled, introduces.added, introduces.updated,
        fun e => function?_of_frame (introduces.frame : Frame (IsAddressOf [] _) _ _) (by simp)⟩

/-- What is different after a run is different at the entries that it came through. -/
lemma report_of_handled {change : Option FunctionRecord → Option FunctionRecord → Bool}
    (hchange : ∀ function, change function function = false) {handled rest : List Entry}
    {between : Progress} (h : (each (entry platform) handled).Returns before log () between)
    (hdistinct : ((handled ++ rest).map Entry.offset).Nodup)
    (hsame : ∀ e : Entry, e.function? after.db = e.function? between.db) :
    report change before.db after.db (handled ++ rest) =
      report change before.db between.db handled := by
  have hframe := frame_of_returns_each h
  rw [List.map_append, List.nodup_append] at hdistinct
  have hrest : ∀ e ∈ rest, e.function? after.db = e.function? before.db := fun e hmem =>
    (hsame e).trans (function?_of_frame hframe fun hhandled =>
      hdistinct.2.2 _ hhandled _ (List.mem_map_of_mem hmem) rfl)
  rw [report_append, report_eq_nil hchange hrest, List.append_nil]
  exact report_congr (fun _ _ => rfl) fun e _ => hsame e

/-- If the entries have distinct offsets, a run that came to its end or was aborted reports, in
the order of the entries, exactly those functions as added that were not there before and are
there now, and exactly those as updated that were there and are different now; and no other
function is different. -/
theorem changes_of_synchronize {files : List Source} {db : Database} {outcome : Outcome Unit}
    (hends : (synchronize platform files db).Ends log outcome)
    (houtcome : outcome.isDone = true ∨ outcome.abortedAt?.isSome = true)
    (hdistinct : ((entries platform files).map Entry.offset).Nodup) :
    outcome.progress.added =
        report isAddition db outcome.progress.db (entries platform files) ∧
      outcome.progress.updated =
        report isUpdate db outcome.progress.db (entries platform files) ∧
      ∀ address, outcome.progress.db.functionAt? address ≠ db.functionAt? address →
        ∃ e ∈ entries platform files, e.address? db = some address ∧
          (isAddition (e.function? db) (e.function? outcome.progress.db) = true ∨
            isUpdate (e.function? db) (e.function? outcome.progress.db) = true) := by
  obtain ⟨handled, rest, first, between, hentries, hhandled, hadded, hupdated, hsame⟩ :=
    exists_handled_of_ends hends houtcome
  have hhandled_distinct : (handled.map Entry.offset).Nodup := by
    rw [hentries, List.map_append] at hdistinct
    exact hdistinct.of_append_left
  refine ⟨?_, ?_, fun address hne => ?_⟩
  · rw [hadded, reports_of_returns_each Step.added_eq hhandled hhandled_distinct, hentries,
      report_of_handled (by simp [isAddition]) hhandled (hentries ▸ hdistinct) hsame]
    rfl
  · rw [hupdated, reports_of_returns_each Step.updated_eq hhandled hhandled_distinct, hentries,
      report_of_handled (by simp [isUpdate]) hhandled (hentries ▸ hdistinct) hsame]
    rfl
  · exact exists_change_of_frame (frame_of_ends hends) hne

/-- In the run of `playerFile` over `playerDatabase` one function is added and one is updated. -/
theorem changes_of_synchronize_player :
    ∃ log outcome,
      (synchronize .windows [playerFile] playerDatabase).Ends log outcome ∧
      (outcome.isDone = true ∨ outcome.abortedAt?.isSome = true) ∧
      ((entries .windows [playerFile]).map Entry.offset).Nodup ∧
      outcome.progress.added = ["Player::team"] ∧
      outcome.progress.updated = ["Player::update"] ∧
      outcome.progress.added = report isAddition playerDatabase outcome.progress.db
        (entries .windows [playerFile]) ∧
      outcome.progress.updated = report isUpdate playerDatabase outcome.progress.db
        (entries .windows [playerFile]) ∧
      ∀ address, outcome.progress.db.functionAt? address ≠ playerDatabase.functionAt? address →
        ∃ e ∈ entries .windows [playerFile], e.address? playerDatabase = some address ∧
          (isAddition (e.function? playerDatabase) (e.function? outcome.progress.db) = true ∨
            isUpdate (e.function? playerDatabase) (e.function? outcome.progress.db) = true) := by
  let run := (synchronize .windows [playerFile] playerDatabase).runFixed .useIncoming
  obtain ⟨log, hends, -⟩ :=
    Dialogue.exists_ends_runFixed .useIncoming (synchronize .windows [playerFile] playerDatabase)
  obtain ⟨hdone, hadded, hupdated⟩ : run.isDone = true ∧
      run.progress.added = ["Player::team"] ∧ run.progress.updated = ["Player::update"] := by
    decide +kernel
  have hdistinct : ((entries .windows [playerFile]).map Entry.offset).Nodup := by decide +kernel
  exact ⟨log, run, hends, .inl hdone, hdistinct, hadded, hupdated,
    changes_of_synchronize hends (.inl hdone) hdistinct⟩

end BindingSync.Sync
