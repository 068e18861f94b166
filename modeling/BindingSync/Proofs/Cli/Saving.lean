import BindingSync.Cli.Run
import BindingSync.Proofs.Cli.Arguments
import BindingSync.Proofs.Cli.Refusals
import BindingSync.Proofs.Persistence
import BindingSync.Proofs.Sync.CutShort
import BindingSync.Proofs.Workspace.Writing

/-!
# What a synchronization leaves behind

A synchronization changes nothing but its database, and that only as a whole.  If the run returned,
or if it was aborted, then the file of the database is the text of what the run made of the database
that was there before; in every other case all files are as they were (`Cli.fate_of_sync`).  This is
so whatever the libraries do that read YAML and mark colours.

There is one way in between.  A database with an integer of more digits than are ever written has no
text, so it is lost, and the program crashes after its run.  This is why the exit code is not zero
after every run that returned.
-/

namespace BindingSync.Cli

open ExceptT (lift_bind lift_pure)
open BindingSync.Sync (Entry entry entries each Introduces)
open BindingSync.Dialogue (Transcript)
open BindingSync.Sandbox (Saved run_bind run_bind_eq_ok_iff run_bind_eq_error_iff run_lift)

variable {α : Type} {options : SyncOptions} {sandbox before after : Sandbox} {prepared : Prepared}

/-! ### What a run begins with -/

/-- The database with which a synchronization begins: the one in the file, or a new one. -/
inductive Opened (options : SyncOptions) (sandbox : Sandbox) : Database → Prop
  | created (habsent : sandbox.statusAt (.ofString options.database) = .ok .absent) :
      Opened options sandbox { imageBase := options.imageBase }
  | loaded {status : FileStatus} {db : Database}
      (hstatus : sandbox.statusAt (.ofString options.database) = .ok status)
      (hfound : status ≠ .absent)
      (hload : sandbox.databaseAt (.ofString options.database) = .ok db) :
      Opened options sandbox db

/-- What a synchronization begins with is what it finds: its database is opened, and its binding
files are read. -/
structure Begins (options : SyncOptions) (sandbox : Sandbox) (prepared : Prepared) : Prop where
  opened : Opened options sandbox prepared.db
  read : ∃ paths : List Path, prepared.files = paths.map sandbox.sourceAt

/-- Opening a database gives the one in the file, or a new one. -/
lemma opened_of_obtainDatabase {status : FileStatus} {db : Database}
    (hstatus : sandbox.statusAt (.ofString options.database) = .ok status)
    (h : (obtainDatabase (.ofString options.database) (!(status != .absent)) options.imageBase :
      ExceptT Failure (StateM Sandbox) _).run.run sandbox = (.ok db, after)) :
    Opened options sandbox db := by
  by_cases habsent : status = .absent
  · rw [habsent] at h hstatus
    obtain ⟨_, _, _, hnew⟩ := run_bind_eq_ok_iff.1 h
    cases hnew
    exact .created hstatus
  · have hfound : (!(status != .absent)) = false := by simp [habsent]
    rw [hfound, run_obtainDatabase] at h
    cases hdatabase : sandbox.databaseAt (.ofString options.database) with
    | ok found =>
      rw [hdatabase] at h
      cases h
      exact .loaded hstatus habsent hdatabase
    | error error =>
      rw [hdatabase] at h
      cases error <;> cases h

/-- A preparation that succeeds gives what it finds. -/
lemma begins_of_prepare [Yaml.Loader]
    (h : (prepare options : ExceptT Failure (StateM Sandbox) _).run.run sandbox =
      (.ok prepared, after)) : Begins options sandbox prepared := by
  obtain ⟨selection, s₁, hchoose, h⟩ := run_bind_eq_ok_iff.1 h
  obtain ⟨platform, s₂, hplatform, h⟩ := run_bind_eq_ok_iff.1 h
  obtain ⟨result, s₃, hexists, h⟩ := run_bind_eq_ok_iff.1 h
  obtain ⟨found, s₄, hfound, h⟩ := run_bind_eq_ok_iff.1 h
  obtain ⟨db, s₅, hdb, h⟩ := run_bind_eq_ok_iff.1 h
  obtain ⟨policy, s₆, hpolicy, h⟩ := run_bind_eq_ok_iff.1 h
  obtain ⟨_, s₇, hprint, h⟩ := run_bind_eq_ok_iff.1 h
  obtain ⟨sources, s₈, hsources, h⟩ := run_bind_eq_ok_iff.1 h
  cases h
  have hchosen : s₁ = sandbox := (keeps_choose _).of_run hchoose
  have hplaced : s₂ = s₁ := (keeps_choosePlatform _).of_run hplatform
  rw [hplaced, hchosen, ← Host.lift_exists?, run_lift, Sandbox.run_exists?] at hexists
  obtain ⟨hresult, hs₃⟩ := Prod.mk.inj hexists
  obtain rfl := Except.ok.inj hresult
  have hopened : Opened options sandbox db := by
    cases hstatus : sandbox.statusAt (.ofString options.database) with
    | error crash =>
      rw [hstatus] at hfound
      cases hfound
    | ok status =>
      rw [hstatus, ← hs₃] at hfound
      cases hfound
      exact opened_of_obtainDatabase hstatus hdb
  have hfiles : s₇.files = sandbox.files := by
    have hasked : s₄ = s₃ := (keeps_orFailure _ _).of_run hfound
    have hobtained : s₅.files = s₄.files := (keeps_obtainDatabase _ _ _).of_run hdb
    have hdecided : s₆ = s₅ := (keeps_choosePolicy _).of_run hpolicy
    have hprinted : s₇.files = s₆.files := (keeps_printLine _).lift.of_run hprint
    rw [hprinted, hdecided, hobtained, hasked, ← hs₃]
  rw [← Workspace.lift_sources, run_lift, Sandbox.run_sources] at hsources
  cases hsources
  refine ⟨hopened, selection.files, List.map_congr_left fun path _ => ?_⟩
  exact Sandbox.sourceAt_congr hfiles path

/-! ### What a run makes of its database -/

/-- A run that is saved.  It returned, with the steps of all entries, or it was aborted, with the
steps of the entries in front of one and the types that this one mentions. -/
inductive Commits (prepared : Prepared) : Outcome Unit → Prop
  | returned {log : Transcript} {progress : Progress}
      (hsteps : (each (entry prepared.platform)
        (entries prepared.platform prepared.files)).Returns { db := prepared.db } log () progress) :
      Commits prepared (.done () progress)
  | aborted {handled rest : List Entry} {e : Entry} {first last : Transcript}
      {between progress : Progress} {placeholders : List NamedType}
      (hentries : entries prepared.platform prepared.files = handled ++ e :: rest)
      (hsteps : (each (entry prepared.platform) handled).Returns { db := prepared.db } first ()
        between)
      (hstops : (entry prepared.platform e).Stops between last (.aborted e.location) progress)
      (introduces : Introduces (Declared.mentioned e.cls e.decl) between progress placeholders) :
      Commits prepared (.stopped (.aborted e.location) progress)

lemma commits_of_done {log : Transcript} {progress : Progress}
    (hends : (synchronize prepared.platform prepared.files prepared.db).Ends log
      (.done () progress)) : Commits prepared (.done () progress) :=
  .returned (Sync.returns_each_of_returns_sources hends)

/-- Reading a binding file aborts no run. -/
lemma not_refuses_aborted {path : Path} {location : String} :
    ¬ (sandbox.sourceAt path).Refuses (.aborted location) := by
  intro h
  generalize hcause : Stop.aborted location = cause at h
  cases h with
  | unparsable _ _ => cases hcause
  | missing htext =>
    rw [← hcause, Sandbox.sourceAt] at htext
    cases hread : sandbox.textAt path with
    | ok text =>
      rw [hread] at htext
      cases htext
    | error error =>
      rw [hread] at htext
      cases error <;> cases htext

lemma commits_of_aborted {log : Transcript} {location : String} {progress : Progress}
    (hbegins : Begins options sandbox prepared)
    (hends : (synchronize prepared.platform prepared.files prepared.db).Ends log
      (.stopped (.aborted location) progress)) :
    Commits prepared (.stopped (.aborted location) progress) := by
  cases Sync.cutShort_of_stops hends with
  | @atFile _ _ file _ _ _ _ hfile hrefuses _ =>
    obtain ⟨paths, hpaths⟩ := hbegins.read
    rw [hpaths] at hfile
    obtain ⟨path, -, rfl⟩ := List.mem_map.1 hfile
    exact absurd hrefuses not_refuses_aborted
  | atEntry hentries hsteps hstop =>
    obtain ⟨rfl, placeholders, introduces⟩ := Sync.introduces_of_stops_aborted hstop
    exact .aborted hentries hsteps hstop introduces

/-! ### The end of a run -/

lemma run_fail [Painter] (message : String) (sandbox : Sandbox) :
    ∃ after, (fail message : ExceptT Ending (StateM Sandbox) α).run.run sandbox =
      (.error (.exit 1), after) ∧ after.files = sandbox.files :=
  ⟨_, rfl, rfl⟩

/-- A failure ends the program as it says, and the files stay as they are. -/
lemma run_close [Painter] (failure : Failure) (sandbox : Sandbox) :
    ∃ after, (close failure : ExceptT Ending (StateM Sandbox) α).run.run sandbox =
      (.error failure.ending, after) ∧ after.files = sandbox.files := by
  cases failure with
  | crash crash => exact ⟨sandbox, rfl, rfl⟩
  | _ => exact run_fail _ sandbox

lemma lift_printLines (lines : List String) :
    (ExceptT.lift (printLines lines : StateM Sandbox _) : ExceptT Ending _ _) =
      printLines lines := by
  induction lines with
  | nil => exact lift_pure _
  | cons line rest ih =>
    rw [printLines, printLines, lift_bind, ih]
    rfl

lemma lift_report [Painter] (progress : Progress) :
    (ExceptT.lift (report progress : StateM Sandbox _) : ExceptT Ending _ _) =
      report progress := by
  unfold report
  rw [lift_bind, lift_bind, lift_bind, lift_printLines, lift_printLines, lift_printLines]
  rfl

/-- A database that has a text is saved, and one that has none is lost. -/
lemma run_finish [Painter] {path : Path} (progress : Progress) (h : sandbox.IsWritable path) :
    ∃ result after, (finish path progress : ExceptT Ending (StateM Sandbox) Unit).run.run sandbox =
        (result, after) ∧
      (∀ text, progress.db.serialize? = some text →
        result = .ok () ∧ Saved sandbox path text after) ∧
      (progress.db.serialize? = none →
        result = .error (.crash .unacceptable) ∧ after.contents = sandbox.contents) := by
  have hreport : ((report progress : StateM Sandbox _).run sandbox).2.files = sandbox.files :=
    keeps_report progress sandbox
  obtain ⟨result, after, hsave, hsome, hnone⟩ :=
    @Sandbox.run_save _ _ progress.db (h.congr hreport.symm)
  have hrun : (finish path progress : ExceptT Ending (StateM Sandbox) Unit).run.run sandbox =
      ((orCrash result : ExceptT Ending (StateM Sandbox) Unit).run.run after) := by
    unfold finish
    rw [← lift_report, ← Database.lift_save, ExceptT.run_bind, run_bind, run_lift]
    dsimp only
    rw [ExceptT.run_bind, run_bind, run_lift, hsave]
  cases result with
  | ok _ =>
    refine ⟨_, _, hrun, fun text htext => ⟨rfl, ?_⟩, fun hlost => ?_⟩
    · exact (hsome text htext).2.congr hreport rfl
    · exact absurd (hnone hlost).1 (by simp)
  | error crash =>
    refine ⟨_, _, hrun, fun text htext => ?_, fun hlost => ?_⟩
    · exact absurd (hsome text htext).1 (by simp)
    · obtain ⟨hcrash, hcontents⟩ := hnone hlost
      cases hcrash
      exact ⟨rfl, hcontents.trans (Sandbox.contents_congr hreport)⟩

/-! ### The fate of the files -/

/-- How a synchronization ends the program, and what it leaves behind, after what its attempt came
to. -/
inductive Fate (options : SyncOptions) (before : Sandbox) :
    Except Failure (Prepared × Outcome Unit) → Ending → Sandbox → Prop
  /-- The run could not begin.  If this is for the database, its file is refused. -/
  | unprepared {failure : Failure} {after : Sandbox} (hfiles : after.files = before.files)
      (hrefused : ∀ error, failure = .database error →
        Database.Refused before (.ofString options.database) error) :
      Fate options before (.error failure) failure.ending after
  /-- The run failed. -/
  | failed {prepared : Prepared} {error : SyncError} {progress : Progress} {after : Sandbox}
      (hfiles : after.files = before.files) :
      Fate options before (.ok (prepared, .stopped (.failed error) progress)) (.exit 1) after
  | crashed {prepared : Prepared} {crash : Crash} {progress : Progress} {after : Sandbox}
      (hfiles : after.files = before.files) :
      Fate options before (.ok (prepared, .stopped (.crash crash) progress)) (.crash crash) after
  /-- The run returned, and its database is there. -/
  | returned {prepared : Prepared} {progress : Progress} {text : String} {after : Sandbox}
      (begins : Begins options before prepared) (commits : Commits prepared (.done () progress))
      (htext : progress.db.serialize? = some text)
      (hsaved : Saved before (.ofString options.database) text after) :
      Fate options before (.ok (prepared, .done () progress)) (.exit 0) after
  /-- The run was aborted, and its database is there. -/
  | aborted {prepared : Prepared} {location : String} {progress : Progress} {text : String}
      {after : Sandbox} (begins : Begins options before prepared)
      (commits : Commits prepared (.stopped (.aborted location) progress))
      (htext : progress.db.serialize? = some text)
      (hsaved : Saved before (.ofString options.database) text after) :
      Fate options before (.ok (prepared, .stopped (.aborted location) progress)) (.exit 1) after
  /-- The run is one that is saved, but its database has no text. -/
  | lost {prepared : Prepared} {outcome : Outcome Unit} {after : Sandbox}
      (begins : Begins options before prepared) (commits : Commits prepared outcome)
      (htext : outcome.progress.db.serialize? = none)
      (hcontents : after.contents = before.contents) :
      Fate options before (.ok (prepared, outcome)) (.crash .unacceptable) after

/-- What a run has made, if it returned. -/
def returned? : Except Failure (Prepared × Outcome Unit) → Option Progress
  | .ok (_, .done () progress) => some progress
  | _ => none

/-- A run that returned is saved, or its database is lost. -/
lemma Fate.cases_returned {attempted : Except Failure (Prepared × Outcome Unit)} {ending : Ending}
    {progress : Progress} (h : Fate options before attempted ending after)
    (hreturned : returned? attempted = some progress) :
    (ending = .exit 0 ∧ ∃ text, progress.db.serialize? = some text) ∨
      ending = .crash .unacceptable ∧ progress.db.serialize? = none ∧
        after.contents = before.contents := by
  cases h with
  | unprepared _ _ => cases hreturned
  | failed _ => cases hreturned
  | crashed _ => cases hreturned
  | aborted _ _ _ _ => cases hreturned
  | returned _ _ htext _ =>
    cases hreturned
    exact .inl ⟨rfl, _, htext⟩
  | @lost _ outcome _ _ _ htext hcontents =>
    cases outcome with
    | stopped cause stopped => cases hreturned
    | done _ _ =>
      cases hreturned
      exact .inr ⟨rfl, htext, hcontents⟩

/-- The exit code is zero only after a run that returned. -/
lemma Fate.exists_returned {attempted : Except Failure (Prepared × Outcome Unit)}
    (h : Fate options before attempted (.exit 0) after) :
    ∃ progress, returned? attempted = some progress := by
  generalize hexit : Ending.exit 0 = ending at h
  cases h with
  | @unprepared failure _ _ _ => cases failure <;> cases hexit
  | returned _ _ _ _ => exact ⟨_, rfl⟩
  | _ => cases hexit

/-- The exit code is zero exactly if the run returned and its database has a text. -/
lemma Fate.exit_zero_iff {attempted : Except Failure (Prepared × Outcome Unit)} {ending : Ending}
    (h : Fate options before attempted ending after) :
    ending = .exit 0 ↔ ∃ progress, returned? attempted = some progress ∧
      (Document.ofDatabase progress.db).isWritable = true := by
  constructor
  · rintro rfl
    obtain ⟨progress, hreturned⟩ := h.exists_returned
    rcases h.cases_returned hreturned with ⟨-, text, htext⟩ | ⟨hcrash, -⟩
    · refine ⟨progress, hreturned, ?_⟩
      by_contra hlong
      rw [Database.serialize?, if_neg hlong] at htext
      cases htext
    · cases hcrash
  · rintro ⟨progress, hreturned, hshort⟩
    rcases h.cases_returned hreturned with ⟨hexit, -⟩ | ⟨-, hnone, -⟩
    · exact hexit
    · rw [Database.serialize?, if_pos hshort] at hnone
      cases hnone

/-- The ending that the result of a command stands for. -/
def endingOf : Except Ending Unit → Ending
  | .ok () => .exit 0
  | .error ending => ending

section Conclusion

variable [Painter] {ready : Sandbox} {log : Transcript} {progress : Progress}

/-- A run that returned is saved, or its database is lost. -/
lemma fate_of_done (hready : ready.IsWritable (.ofString options.database))
    (hfiles : ready.files = before.files) (begins : Begins options before prepared)
    (commits : Commits prepared (.done () progress)) :
    ∃ result after, (conclude (.ofString options.database) (.done () progress) :
        ExceptT Ending (StateM Sandbox) Unit).run.run ready = (result, after) ∧
      Fate options before (.ok (prepared, .done () progress)) (endingOf result) after := by
  obtain ⟨result, after, hrun, hsome, hnone⟩ := run_finish progress hready
  refine ⟨result, after, hrun, ?_⟩
  cases htext : progress.db.serialize? with
  | some text =>
    obtain ⟨rfl, hsaved⟩ := hsome text htext
    exact .returned begins commits htext (hsaved.congr hfiles rfl)
  | none =>
    obtain ⟨rfl, hcontents⟩ := hnone htext
    exact .lost begins commits htext (hcontents.trans (Sandbox.contents_congr hfiles))

/-- A run that was aborted is saved before the abort is reported, or its database is lost. -/
lemma fate_of_aborted {location : String} (hready : ready.IsWritable (.ofString options.database))
    (hfiles : ready.files = before.files) (begins : Begins options before prepared)
    (commits : Commits prepared (.stopped (.aborted location) progress)) :
    ∃ result after, (conclude (.ofString options.database)
        (.stopped (.aborted location) progress) :
        ExceptT Ending (StateM Sandbox) Unit).run.run ready = (result, after) ∧
      Fate options before (.ok (prepared, .stopped (.aborted location) progress))
        (endingOf result) after := by
  obtain ⟨result, saved, hrun, hsome, hnone⟩ := run_finish progress hready
  rw [conclude, ExceptT.run_bind, run_bind, hrun]
  cases htext : progress.db.serialize? with
  | some text =>
    obtain ⟨rfl, hsaved⟩ := hsome text htext
    obtain ⟨after, hfail, hafter⟩ := @run_fail Unit _
      s!"{Stop.abortMessage location}. Changes made before the abort were kept." saved
    have hkept : Saved before (.ofString options.database) text after :=
      hsaved.congr hfiles hafter.symm
    exact ⟨.error (.exit 1), after, hfail, .aborted begins commits htext hkept⟩
  | none =>
    obtain ⟨rfl, hcontents⟩ := hnone htext
    have hkept : saved.contents = before.contents :=
      hcontents.trans (Sandbox.contents_congr hfiles)
    exact ⟨.error (.crash .unacceptable), saved, rfl, .lost begins commits htext hkept⟩

/-- A run that has come to an end is saved, or leaves everything as it is. -/
lemma fate_of_conclude {outcome : Outcome Unit}
    (hwritable : before.IsWritable (.ofString options.database))
    (hfiles : ready.files = before.files) (begins : Begins options before prepared)
    (hends : (synchronize prepared.platform prepared.files prepared.db).Ends log outcome) :
    ∃ result after, (conclude (.ofString options.database) outcome :
        ExceptT Ending (StateM Sandbox) Unit).run.run ready = (result, after) ∧
      Fate options before (.ok (prepared, outcome)) (endingOf result) after := by
  have hready : ready.IsWritable (.ofString options.database) := hwritable.congr hfiles.symm
  cases outcome with
  | done _ progress => exact fate_of_done hready hfiles begins (commits_of_done hends)
  | stopped cause progress =>
    cases cause with
    | aborted location =>
      exact fate_of_aborted hready hfiles begins (commits_of_aborted begins hends)
    | failed error =>
      obtain ⟨after, hfail, hafter⟩ := @run_fail Unit _ error.message ready
      exact ⟨.error (.exit 1), after, hfail, .failed (hafter.trans hfiles)⟩
    | crash crash => exact ⟨.error (.crash crash), ready, rfl, .crashed hfiles⟩

end Conclusion

section Programs

variable [Yaml.Loader] [Painter]

/-- What the attempt at a synchronization comes to in a sandbox. -/
def attemptIn (sandbox : Sandbox) (options : SyncOptions) :
    Except Failure (Prepared × Outcome Unit) :=
  ((attempt options : ExceptT Failure (StateM Sandbox) _).run.run sandbox).1

/-- A synchronization saves what its run makes of the database, or leaves everything as it is. -/
lemma fate_of_sync (hwritable : sandbox.IsWritable (.ofString options.database))
    (htyped : sandbox.HoldsTyped (.ofString options.database)) :
    ∃ result after, (sync options : ExceptT Ending (StateM Sandbox) Unit).run.run sandbox =
        (result, after) ∧
      Fate options sandbox (attemptIn sandbox options) (endingOf result) after := by
  obtain ⟨attempted, ready, hattempt⟩ : ∃ attempted ready,
      (attempt options : ExceptT Failure (StateM Sandbox) _).run.run sandbox =
        (attempted, ready) := ⟨_, _, rfl⟩
  have hfiles : ready.files = sandbox.files := (keeps_attempt options).of_run hattempt
  rw [attemptIn, hattempt, sync_eq, ExceptT.run_bind, run_bind, reporting, ExceptT.run_mk,
    run_bind, hattempt]
  cases attempted with
  | error failure =>
    obtain ⟨after, hclose, hafter⟩ := @run_close (Prepared × Outcome Unit) _ failure ready
    have hrefused : ∀ error, failure = .database error →
        Database.Refused sandbox (.ofString options.database) error := by
      rintro error rfl
      rcases run_bind_eq_error_iff.1 hattempt with hprepare | ⟨_, _, -, hrun⟩
      · exact refused_of_prepare htyped hprepare
      · cases hrun
    refine ⟨.error failure.ending, after, ?_, .unprepared (hafter.trans hfiles) hrefused⟩
    dsimp only
    rw [hclose]
    rfl
  | ok attempted =>
    obtain ⟨prepared, outcome⟩ := attempted
    obtain ⟨_, between, hprepare, hrun⟩ := run_bind_eq_ok_iff.1 hattempt
    obtain ⟨_, _, hengine, hreturn⟩ := run_bind_eq_ok_iff.1 hrun
    cases hreturn
    obtain ⟨log, hends, -⟩ := Dialogue.exists_ends_of_runM (decide prepared.policy)
      (synchronize prepared.platform prepared.files prepared.db) between
    have houtcome : ((engine prepared : StateM Sandbox _).run between).1 = outcome := by
      rw [run_lift] at hengine
      exact Except.ok.inj (Prod.mk.inj hengine).1
    rw [engine] at houtcome
    rw [houtcome] at hends
    exact fate_of_conclude hwritable hfiles (begins_of_prepare hprepare) hends

/-- The program ends as its synchronization does. -/
lemma run_of_sync {arguments : List String} {result : Except Ending Unit}
    (harguments : Command.ofArguments arguments = .ok (.sync options))
    (hsync : (sync options : ExceptT Ending (StateM Sandbox) Unit).run.run sandbox =
      (result, after)) :
    (run arguments : StateM Sandbox _).run sandbox = (endingOf result, after) := by
  rw [run, harguments]
  dsimp only
  rw [perform, run_bind, hsync]
  cases result with
  | ok _ => rfl
  | error ending => rfl

end Programs

/-- A workspace with one function to synchronize, and no database yet. -/
def layerSandbox : Sandbox where
  tree := [(["bindings", "1", "Cocos2d.bro"], .file "".toUTF8),
    (["bindings", "1", "GeometryDash.bro"],
      .file "class PlayLayer \x7b\n  bool init() = win 0x10;\n\x7d\n".toUTF8)]

/-- A database can be written beside the bindings. -/
lemma isWritable_layerSandbox : layerSandbox.IsWritable (.ofString "p.json") :=
  ⟨by decide +kernel, layerSandbox, ["p.json"], rfl, rfl, by decide +kernel⟩

/-- There is no database to be typed. -/
lemma holdsTyped_layerSandbox : layerSandbox.HoldsTyped (.ofString "p.json") := by
  have hnone : (layerSandbox.textAt (.ofString "p.json")).toOption = none := by decide +kernel
  intro text document htext
  rw [htext] at hnone
  cases hnone

/-- The text of a database with nothing in it. -/
def emptyText : String :=
  "\x7b\"v\": \"1\", \"image-base\": 4194304, \"pointer-size\": 4, \"integer-size\": 4\x7d"

/-- The same workspace with this database. -/
def openedSandbox : Sandbox where
  tree := (["p.json"], .file emptyText.toUTF8) :: layerSandbox.tree

/-- The database can be written again. -/
lemma isWritable_openedSandbox : openedSandbox.IsWritable (.ofString "p.json") :=
  ⟨by decide +kernel, openedSandbox, ["p.json"], rfl, rfl, by decide +kernel⟩

/-- The database is typed. -/
lemma holdsTyped_openedSandbox : openedSandbox.HoldsTyped (.ofString "p.json") := by
  have hfile : (openedSandbox.textAt (.ofString "p.json")).toOption = some emptyText := by
    decide +kernel
  have hdatabase : ((Json.parse emptyText).toOption.bind Document.toDatabase?).isSome = true := by
    decide +kernel
  intro text document htext hparse _
  rw [htext] at hfile
  obtain rfl : text = emptyText := Option.some.inj hfile
  rw [hparse] at hdatabase
  exact hdatabase

/-- An image base of one digit more than is written. -/
def farBase : Int := 10 ^ Text.Integer.maxDigits

/-- A database with an image base that is too long to be written has no text. -/
lemma serialize?_eq_none {db : Database} (h : db.imageBase = some farBase) :
    db.serialize? = none := by
  have hlong : ¬ (Document.ofDatabase db).isWritable = true := by
    intro hshort
    have himage := Json.haveWritable_iff.1 hshort ("image-base", .int farBase)
      (by simp [Document.ofImageBase, h])
    exact Database.not_isWritable_pow (Nat.le_refl _) himage
  rw [Database.serialize?, if_neg hlong]

/-- A synchronization into a new database with that image base. -/
def farOptions : SyncOptions where
  database := "p.json"
  imageBase := some farBase

/-- The arguments for it: the hexadecimal form of the image base is read all the same. -/
def farArguments : List String :=
  ["sync", "p.json", "--image-base", Text.hexOfInt farBase]

end BindingSync.Cli
