import BindingSync.Proofs.Sync.Failures
import BindingSync.Proofs.Workspace.Reading

/-!
# Files that are no binding files

A run over the files at some paths comes to its end or stops with an error of its own, up to three
things that nobody asks for (`Sync.Unhandled`): a path that no file can have and a file that is no
text end the program in the middle of the run, and so does the first declaration with an offset if
the database has no image base.  `Sync.crash_iff_of_ends` says that these are all.
-/

namespace BindingSync

open BindingSync.Dialogue (Transcript)

namespace Dialogue

variable {α : Type}

/-- How a dialogue ends is settled by its transcript. -/
lemma Ends.unique {d : Dialogue α} {log : Transcript} {a b : α} (ha : d.Ends log a)
    (hb : d.Ends log b) : a = b := by
  induction ha with
  | done value => exact (ends_done_iff.1 hb).2.symm
  | ask _ ih =>
    obtain ⟨answer, rest, hlog, hnext⟩ := ends_ask_iff.1 hb
    obtain ⟨hentry, rfl⟩ := List.cons.inj hlog
    obtain rfl := (Prod.mk.inj hentry).2
    exact ih hnext

end Dialogue

namespace Sync

variable {platform : Platform} {before after : Progress} {log : Transcript} {crash : Crash}
  {sandbox : Sandbox}

/-! ### Files -/

/-- A file that refuses with a crash is one that cannot be read. -/
lemma textAt_of_refuses {path : Path} (h : (sandbox.sourceAt path).Refuses (.crash crash)) :
    sandbox.textAt path = .error (.crash crash) := by
  cases h with
  | missing htext =>
    unfold Sandbox.sourceAt at htext
    cases hread : sandbox.textAt path with
    | ok text =>
      rw [hread] at htext
      cases htext
    | error error =>
      rw [hread] at htext
      cases error with
      | file error => cases htext
      | crash found =>
        cases htext
        rfl

/-- There are no classes in a file that cannot be read. -/
lemma classes_of_refuses {file : Source} {cause : Stop} (h : file.Refuses cause) :
    file.classes = [] := by
  cases h with
  | missing htext => rw [Source.classes, htext]
  | unparsable htext hparse =>
    rw [Source.classes, htext]
    simp only [hparse]

/-- A path without a text ends the program where its turn comes. -/
lemma stops_of_textAt {path : Path} (h : sandbox.textAt path = .error (.crash crash)) :
    (source platform (sandbox.sourceAt path)).Stops before [] (.crash crash) before := by
  have htext : (sandbox.sourceAt path).text = .error (.crash crash) := by
    rw [Sandbox.sourceAt, h]
    rfl
  have hsource : source platform (sandbox.sourceAt path) = stop (.crash crash) := by
    rw [source, htext]
  rw [hsource]
  exact (stops_of_done rfl).2 ⟨rfl, rfl⟩

/-- A step ends the program only where there is no image base. -/
lemma Halted.baseless {e : Entry} (h : Halted platform e.cls e.decl e.offset before log
    (.crash crash) after) : before.db.imageBase = none ∧ crash = .wrongKind ∧ log = [] ∧
      after = before := by
  generalize hcause : Stop.crash crash = cause at h
  cases h with
  | unplaced hbase =>
    cases hcause
    exact ⟨hbase, rfl, rfl, rfl⟩
  | disagreed _ _ _ hends =>
    obtain ⟨-, _, _, _, -, ⟨-, rfl⟩ | ⟨-, rfl⟩⟩ := Reconciliation.last_of_ends hends
    · cases hcause
    · cases hcause
  | _ => cases hcause

/-- Without an image base a step does end the program. -/
lemma stops_of_baseless {e : Entry} (hbase : before.db.imageBase = none) :
    (entry platform e).Stops before [] (.crash .wrongKind) before :=
  stops_bind_iff.2 (.inl (stops_addressOf_iff.2 ⟨rfl, hbase, rfl, rfl⟩))

/-! ### Runs -/

/-- A run over the files at some paths ends the program, behind some files that are handled. -/
inductive Unhandled (sandbox : Sandbox) (platform : Platform) (paths : List Path) (db : Database)
    (log : Transcript) : Crash → Prop
  /-- No file can have the next path. -/
  | noPath {front back : List Path} {path : Path} {progress : Progress}
      (hpaths : paths = front ++ path :: back)
      (hfront : (synchronize platform (front.map sandbox.sourceAt) db).Ends log (.done () progress))
      (hpath : path.isUsable = false) : Unhandled sandbox platform paths db log .unacceptable
  /-- The next file is no text. -/
  | noText {front back : List Path} {path : Path} {progress : Progress} {content : ByteArray}
      (hpaths : paths = front ++ path :: back)
      (hfront : (synchronize platform (front.map sandbox.sourceAt) db).Ends log (.done () progress))
      (hpath : path.isUsable = true) (hread : sandbox.read path = .ok content)
      (hcontent : decodeText content = none) : Unhandled sandbox platform paths db log .undecodable
  /-- The next file has a declaration with an offset, and there is no image base. -/
  | noAddress {front back : List Path} {path : Path} {progress : Progress}
      (hpaths : paths = front ++ path :: back)
      (hfront : (synchronize platform (front.map sandbox.sourceAt) db).Ends log (.done () progress))
      (hbase : db.imageBase = none) (hentries : entries platform [sandbox.sourceAt path] ≠ []) :
      Unhandled sandbox platform paths db log .wrongKind

/-- Without an image base nothing comes through but what has no entry. -/
lemma eq_nil_of_returns_each {list : List Entry} (hbase : before.db.imageBase = none)
    (h : (each (entry platform) list).Returns before log () after) : list = [] ∧ log = [] := by
  cases list with
  | nil => exact ⟨rfl, (returns_pure_iff.1 h).1⟩
  | cons first rest =>
    obtain ⟨_, _, _, -, ⟨step⟩, -⟩ := returns_each_cons h
    cases hbase.symm.trans step.imageBase_eq

/-- A run that ends the program does so in one of these ways. -/
lemma unhandled_of_stops {paths : List Path} {db : Database}
    (h : (synchronize platform (paths.map sandbox.sourceAt) db).Ends log
      (.stopped (.crash crash) after)) : Unhandled sandbox platform paths db log crash := by
  obtain ⟨handled, file, rest, first, last, between, hfiles, rfl, hhandled, hstop⟩ :=
    exists_of_stops_each h
  obtain ⟨front, behind, hpaths, rfl, hbehind⟩ := List.map_eq_append_iff.1 hfiles
  obtain ⟨path, back, rfl, rfl, -⟩ := List.map_eq_cons_iff.1 hbehind
  have hgrows : db.Grows between.db :=
    grows_of_returns_each (returns_each_of_returns_sources hhandled)
  rcases isReadable_or_refuses platform (sandbox.sourceAt path) with hreadable |
    ⟨refusal, hrefuses, hsource⟩
  · rw [source_eq_each hreadable] at hstop
    obtain ⟨steps, e, later, middle, tail, between', hsplit, rfl, hsteps, hstop⟩ :=
      exists_of_stops_each hstop
    obtain ⟨hbase', rfl, rfl, -⟩ := (halted_of_stops hstop).baseless
    have hbase : between.db.imageBase = none :=
      (grows_of_returns_each hsteps).imageBase.symm.trans hbase'
    obtain ⟨-, rfl⟩ := eq_nil_of_returns_each hbase hsteps
    have hentries : entries platform [sandbox.sourceAt path] ≠ [] := by
      simp [entries, hsplit]
    rw [List.append_nil, List.append_nil]
    exact .noAddress hpaths hhandled (hgrows.imageBase.symm.trans hbase) hentries
  · rw [hsource] at hstop
    obtain ⟨rfl, hout⟩ := (stops_of_done rfl).1 hstop
    cases hout
    rw [List.append_nil]
    rcases Sandbox.textAt_eq_crash_iff.1 (textAt_of_refuses hrefuses) with ⟨hpath, rfl⟩ |
      ⟨hpath, rfl, content, hread, hcontent⟩
    · exact .noPath hpaths hhandled hpath
    · exact .noText hpaths hhandled hpath hread hcontent

/-- In each of these ways a run does end the program. -/
lemma exists_ends_of_unhandled {paths : List Path} {db : Database}
    (h : Unhandled sandbox platform paths db log crash) :
    ∃ progress, (synchronize platform (paths.map sandbox.sourceAt) db).Ends log
      (.stopped (.crash crash) progress) := by
  have hbehind : ∀ {front back : List Path} {path : Path} {progress : Progress},
      paths = front ++ path :: back →
      (synchronize platform (front.map sandbox.sourceAt) db).Ends log (.done () progress) →
      (source platform (sandbox.sourceAt path)).Stops progress [] (.crash crash) progress →
      (synchronize platform (paths.map sandbox.sourceAt) db).Ends log
        (.stopped (.crash crash) progress) := by
    rintro front back path progress rfl hfront hstop
    rw [List.map_append, List.map_cons, synchronize, sources, each_append]
    exact stops_bind_iff.2 (.inr ⟨log, (), progress, [], hfront, stops_bind_iff.2 (.inl hstop),
      (List.append_nil log).symm⟩)
  cases h with
  | noPath hpaths hfront hpath =>
    exact ⟨_, hbehind hpaths hfront (stops_of_textAt
      (Sandbox.textAt_eq_crash_iff.2 (.inl ⟨hpath, rfl⟩)))⟩
  | noText hpaths hfront hpath hread hcontent =>
    exact ⟨_, hbehind hpaths hfront (stops_of_textAt
      (Sandbox.textAt_eq_crash_iff.2 (.inr ⟨hpath, rfl, _, hread, hcontent⟩)))⟩
  | @noAddress _ _ path progress hpaths hfront hbase hentries =>
    refine ⟨progress, hbehind hpaths hfront ?_⟩
    rcases isReadable_or_refuses platform (sandbox.sourceAt path) with hreadable |
      ⟨refusal, hrefuses, -⟩
    · have hbase' : progress.db.imageBase = none :=
        (grows_of_returns_each (returns_each_of_returns_sources hfront)).imageBase.trans hbase
      rw [source_eq_each hreadable]
      cases hlist : (sandbox.sourceAt path).classes.flatMap (entriesOf platform) with
      | nil => exact absurd (by simp [entries, hlist]) hentries
      | cons e rest => exact stops_bind_iff.2 (.inl (stops_of_baseless hbase'))
    · have hnone : entries platform [sandbox.sourceAt path] = [] := by
        simp [entries, classes_of_refuses hrefuses]
      exact absurd hnone hentries

/-- A run over files, with all checks made and whatever a check that fails would do, ends the
program exactly in one of these ways; otherwise it comes to its end, fails or is aborted. -/
theorem crash_iff_of_ends {paths : List Path} {db : Database} {outcome : Outcome Unit}
    (faults : Checked.Faults)
    (hends : (Checked.synchronize faults platform
      ((Workspace.sources paths : StateM Sandbox _).run sandbox).1 db).Ends log outcome) :
    outcome.crash? = some crash ↔ Unhandled sandbox platform paths db log crash := by
  rw [Checked.synchronize_eq, Sandbox.run_sources] at hends
  constructor
  · intro h
    rw [Outcome.eq_stopped_of_crash? h] at hends
    exact unhandled_of_stops hends
  · intro h
    obtain ⟨progress, hcrash⟩ := exists_ends_of_unhandled h
    rw [hends.unique hcrash]
    rfl

/-- A sandbox with a binding file and a file that is no text. -/
def noisySandbox : Sandbox where
  tree := [(["player.bro"], .file "class Player \x7b\n  void update() = win 0x10;\n\x7d\n".toUTF8),
    (["noise.bro"], .file ⟨#[0xff, 0x0a]⟩)]

/-- A database without an image base cannot take the function of the binding file. -/
theorem crash_iff_of_ends_baseless :
    ∃ (log : Transcript) (outcome : Outcome Unit) (faults : Checked.Faults),
      (Checked.synchronize faults .windows
        ((Workspace.sources [.ofString "player.bro"] : StateM Sandbox _).run noisySandbox).1
        { imageBase := none }).Ends log outcome ∧ outcome.crash? = some .wrongKind ∧
      Unhandled noisySandbox .windows [.ofString "player.bro"] { imageBase := none } log
        .wrongKind := by
  let faults : Checked.Faults := ⟨fun _ => .crash .unacceptable, .crash .outOfRange⟩
  let files := ((Workspace.sources [.ofString "player.bro"] : StateM Sandbox _).run noisySandbox).1
  let run := (synchronize .windows files { imageBase := none }).runFixed .useIncoming
  have hcrash : run.crash? = some .wrongKind := by decide +kernel
  obtain ⟨log, hends, -⟩ := Dialogue.exists_ends_runFixed .useIncoming
    (synchronize .windows files { imageBase := none })
  have hchecked :
      (Checked.synchronize faults .windows files { imageBase := none }).Ends log run := by
    rw [Checked.synchronize_eq]
    exact hends
  exact ⟨log, run, faults, hchecked, hcrash, (crash_iff_of_ends faults hchecked).1 hcrash⟩

/-- A file that is no text ends the program when the function of the file before it is already in
the database. -/
theorem crashes_noisy :
    ∃ (log : Transcript) (outcome : Outcome Unit),
      (synchronize .windows ((Workspace.sources [.ofString "player.bro", .ofString "noise.bro"] :
        StateM Sandbox _).run noisySandbox).1 {}).Ends log outcome ∧
      outcome.crash? = some .undecodable ∧ outcome.progress.added = ["Player::update"] := by
  let files := ((Workspace.sources [.ofString "player.bro", .ofString "noise.bro"] :
    StateM Sandbox _).run noisySandbox).1
  let run := (synchronize .windows files {}).runFixed .useIncoming
  obtain ⟨hcrash, hadded⟩ : run.crash? = some .undecodable ∧
      run.progress.added = ["Player::update"] := by decide +kernel
  obtain ⟨log, hends, -⟩ := Dialogue.exists_ends_runFixed .useIncoming
    (synchronize .windows files {})
  exact ⟨log, run, hends, hcrash, hadded⟩

end Sync

end BindingSync
