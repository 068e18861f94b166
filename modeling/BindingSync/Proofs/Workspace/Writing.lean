import BindingSync.Proofs.Workspace.Keeping

/-!
# Writing in a sandbox

A program that makes directories keeps the contents of all files, and what it does is a matter of
the file tree alone (`Sandbox.Arranges`).

A database is saved behind the directories around it.  If its path is writable
(`Sandbox.IsWritable`), then its file gets the text of the database and no other file changes; if
the database has no text, then no file changes at all (`Sandbox.run_save`).
-/

namespace BindingSync

/-! ### File trees -/

namespace FileTree

variable {tree : FileTree} {place other : List String} {entry : FileEntry}

/-- What is found behind an entry at the front. -/
lemma lookup_cons_eq_ite (place other : List String) (entry : FileEntry) (rest : FileTree) :
    List.lookup other ((place, entry) :: rest) =
      if other = place then some entry else rest.lookup other := by
  rw [List.lookup_cons]
  by_cases h : other = place
  · rw [if_pos h, beq_iff_eq.2 h]
  · rw [if_neg h, beq_eq_false_iff_ne.2 h]

/-- What is found in a tree with another entry. -/
lemma lookup_put (tree : FileTree) (place other : List String) (entry : FileEntry) :
    (tree.put place entry).lookup other =
      if other = place then some entry else tree.lookup other := by
  induction tree with
  | nil => rw [put, lookup_cons_eq_ite]
  | cons first rest ih =>
    obtain ⟨key, old⟩ := first
    rw [put]
    by_cases hkey : key = place
    · rw [if_pos hkey, lookup_cons_eq_ite, lookup_cons_eq_ite, hkey]
      split
      · rfl
      · rfl
    · rw [if_neg hkey, lookup_cons_eq_ite, lookup_cons_eq_ite, ih]
      by_cases h : other = key
      · rw [if_pos h, if_pos h, if_neg (h ▸ hkey)]
      · rw [if_neg h, if_neg h]

/-- The places of a tree with another entry. -/
lemma any_put (tree : FileTree) (place : List String) (entry : FileEntry)
    (test : List String → Bool) :
    ((tree.put place entry).any fun found => test found.1) =
      ((tree.any fun found => test found.1) || test place) := by
  induction tree with
  | nil => rw [put, List.any_cons, List.any_nil, Bool.or_comm]
  | cons first rest ih =>
    obtain ⟨key, old⟩ := first
    rw [put]
    by_cases hkey : key = place
    · rw [if_pos hkey, List.any_cons, List.any_cons, hkey]
      cases test place <;> simp
    · rw [if_neg hkey, List.any_cons, List.any_cons, ih, Bool.or_assoc]

/-- Directories stay directories if something is put elsewhere. -/
lemma statusAt_put_of_directory (h : tree.statusAt other = .directory) (hne : other ≠ place) :
    (tree.put place entry).statusAt other = .directory := by
  have hany := any_put tree place entry fun found => other.isPrefixOf found
  unfold statusAt at h ⊢
  rw [lookup_put, if_neg hne]
  cases hlookup : tree.lookup other with
  | some found =>
    rw [hlookup] at h
    cases found with
    | file content => cases h
    | directory => rfl
  | none =>
    rw [hlookup] at h
    have hdirectory : (other.isEmpty || tree.any fun found => other.isPrefixOf found.1) = true := by
      by_contra hnot
      simp [hnot] at h
    dsimp only
    rw [hany, ← Bool.or_assoc, hdirectory]
    rfl

/-- A walk leads where it led before if nothing is put where it passes through. -/
lemma walk_put {start parts target : List String} (hplace : tree.statusAt place ≠ .directory)
    (h : tree.walk start parts = .ok target) :
    (tree.put place entry).walk start parts = .ok target := by
  induction parts generalizing start with
  | nil => exact h
  | cons part rest ih =>
    rw [walk] at h ⊢
    cases hstart : tree.statusAt start with
    | directory =>
      have hne : start ≠ place := by
        rintro rfl
        exact hplace hstart
      rw [hstart] at h
      rw [statusAt_put_of_directory hstart hne]
      dsimp only at h ⊢
      split at h
      · cases h
      · next hshort =>
        rw [if_neg hshort]
        exact ih h
    | file =>
      rw [hstart] at h
      cases h
    | absent =>
      rw [hstart] at h
      cases h

/-- The content of the file at a place, if a file stands there. -/
def fileAt? (tree : FileTree) (place : List String) : Option ByteArray :=
  match tree.lookup place with
  | some (.file content) => some content
  | _ => none

/-- Putting something at a place changes no other file. -/
lemma fileAt?_put_of_ne (h : other ≠ place) :
    (tree.put place entry).fileAt? other = tree.fileAt? other := by
  rw [fileAt?, lookup_put, if_neg h, fileAt?]

/-- A directory that is made where nothing stands is no file. -/
lemma fileAt?_put_directory (h : tree.statusAt place = .absent) :
    (tree.put place .directory).fileAt? = tree.fileAt? := by
  funext other
  by_cases hother : other = place
  · have hnone : tree.lookup place = none := by
      unfold statusAt at h
      split at h
      · cases h
      · cases h
      · next hnone => exact hnone
    rw [hother, fileAt?, lookup_put, if_pos rfl, fileAt?, hnone]
  · exact fileAt?_put_of_ne hother

end FileTree

namespace Sandbox

variable {α β : Type} {sandbox : Sandbox} {path : Path}

/-- The contents of all files, and where they are seen from. -/
def contents (sandbox : Sandbox) : (List String → Option ByteArray) × List String :=
  (sandbox.tree.fileAt?, sandbox.current)

/-- The contents of all files are a matter of the file tree. -/
lemma contents_congr {sandbox other : Sandbox} (h : sandbox.files = other.files) :
    sandbox.contents = other.contents := by
  obtain ⟨htree, hcurrent⟩ := Prod.mk.inj h
  rw [contents, contents, htree, hcurrent]

/-! ### Directories -/

/-- A program works on directories only: it changes the content of no file, and what it does is a
matter of the file tree and of nothing else in the sandbox. -/
structure Arranges (part : StateM Sandbox α) : Prop where
  keeps : Keeps contents part
  blind : ∀ {sandbox other : Sandbox}, sandbox.files = other.files →
    (part.run sandbox).1 = (part.run other).1 ∧
      (part.run sandbox).2.files = (part.run other).2.files

lemma arranges_pure (a : α) : Arranges (pure a : StateM Sandbox α) where
  keeps := keeps_pure a
  blind h := ⟨rfl, h⟩

lemma Arranges.bind {part : StateM Sandbox α} {next : α → StateM Sandbox β}
    (hpart : Arranges part) (hnext : ∀ a, Arranges (next a)) : Arranges (part >>= next) where
  keeps := hpart.keeps.bind fun a => (hnext a).keeps
  blind {sandbox other} h := by
    obtain ⟨hvalue, hfiles⟩ := hpart.blind h
    rw [run_bind, run_bind, hvalue]
    exact (hnext _).blind hfiles

lemma arranges_statusAt (path : Path) : Arranges (Host.statusAt path : StateM Sandbox _) := by
  refine ⟨(keeps_statusAt path).of_id, fun {sandbox other} h => ?_⟩
  rw [run_statusAt, run_statusAt]
  exact ⟨statusAt_congr h path, h⟩

lemma arranges_isDirectory (path : Path) :
    Arranges (Host.isDirectory path : StateM Sandbox _) :=
  (arranges_statusAt path).bind fun _ => arranges_pure _

/-- Making a directory puts one where nothing stands. -/
lemma run_makeDirectory (sandbox : Sandbox) (path : Path) :
    (Host.makeDirectory path : StateM Sandbox _).run sandbox =
      match sandbox.locate path with
      | .error error => (.error error, sandbox)
      | .ok place =>
        match sandbox.tree.statusAt place with
        | .absent => (.ok (), { sandbox with tree := sandbox.tree.put place .directory })
        | _ => (.error .exists, sandbox) := by
  change Sandbox.change (sandbox.makeDirectory path) sandbox = _
  unfold makeDirectory
  cases sandbox.locate path with
  | error error => rfl
  | ok place =>
    change Sandbox.change (match sandbox.tree.statusAt place with
      | .absent => .ok { sandbox with tree := sandbox.tree.put place .directory }
      | _ => .error .exists) sandbox = _
    dsimp only
    cases sandbox.tree.statusAt place <;> rfl

lemma arranges_makeDirectory (path : Path) :
    Arranges (Host.makeDirectory path : StateM Sandbox _) := by
  constructor
  · intro sandbox
    rw [run_makeDirectory]
    cases sandbox.locate path with
    | error error => rfl
    | ok place =>
      dsimp only
      cases hstatus : sandbox.tree.statusAt place with
      | absent =>
        dsimp only
        rw [contents, contents, FileTree.fileAt?_put_directory hstatus]
      | file => rfl
      | directory => rfl
  · intro sandbox other h
    rw [run_makeDirectory, run_makeDirectory, locate_congr h]
    cases other.locate path with
    | error error => exact ⟨rfl, h⟩
    | ok place =>
      dsimp only
      rw [(Prod.mk.inj h).1]
      cases hstatus : other.tree.statusAt place with
      | absent => exact ⟨rfl, congrArg (other.tree.put place .directory, ·) (Prod.mk.inj h).2⟩
      | file => exact ⟨rfl, h⟩
      | directory => exact ⟨rfl, h⟩

lemma arranges_ensureDirectory (path : Path) :
    Arranges (Host.ensureDirectory path : StateM Sandbox _) := by
  unfold Host.ensureDirectory
  refine (arranges_makeDirectory path).bind fun result => ?_
  split
  · exact arranges_pure _
  · refine (arranges_isDirectory path).bind fun found => ?_
    split
    · exact arranges_pure _
    · exact arranges_pure _
  · exact arranges_pure _

lemma arranges_ensureDirectories (steps : Nat) (path : Path) :
    Arranges (Host.ensureDirectories steps path : StateM Sandbox _) := by
  induction steps generalizing path with
  | zero => exact arranges_ensureDirectory path
  | succ steps ih =>
    rw [Host.ensureDirectories]
    refine (arranges_ensureDirectory path).bind fun result => ?_
    split
    · split
      · exact arranges_pure _
      · refine (ih path.parent).bind fun result => ?_
        cases result with
        | error error => exact arranges_pure _
        | ok _ => exact arranges_ensureDirectory path
    · exact arranges_pure _

/-- Making the directories around a path. -/
lemma arranges_ensureParent (path : Path) :
    Arranges (Host.ensureParent path : StateM Sandbox _) := by
  unfold Host.ensureParent
  split
  · exact arranges_pure _
  · exact (arranges_ensureDirectories _ _).bind fun _ => arranges_pure _

/-! ### Saving -/

/-- A file can be written at a path: the directories around it are there or can be made, and then it
leads to a file or to nothing. -/
def IsWritable (sandbox : Sandbox) (path : Path) : Prop :=
  path.isUsable = true ∧ ∃ ready place,
    (Host.ensureParent path : StateM Sandbox _).run sandbox = (.ok (), ready) ∧
      ready.locate path = .ok place ∧ ready.tree.statusAt place ≠ .directory

/-- Whether a path is writable is a matter of the file tree. -/
lemma IsWritable.congr {other : Sandbox} (h : sandbox.IsWritable path)
    (hfiles : sandbox.files = other.files) : other.IsWritable path := by
  obtain ⟨husable, ready, place, hparent, hlocate, hstatus⟩ := h
  obtain ⟨hvalue, hready⟩ := (arranges_ensureParent path).blind hfiles
  rw [hparent] at hvalue hready
  have hother : (Host.ensureParent path : StateM Sandbox _).run other =
      (.ok (), ((Host.ensureParent path : StateM Sandbox _).run other).2) :=
    Prod.ext hvalue.symm rfl
  refine ⟨husable, _, place, hother, ?_, ?_⟩
  · rw [← locate_congr hready, hlocate]
  · rwa [← (Prod.mk.inj hready).1]

/-- A file was written: the path leads to the text, and all other files are as they were. -/
structure Saved (before : Sandbox) (path : Path) (text : String) (after : Sandbox) : Prop where
  content : after.read path = .ok text.toUTF8
  others : ∃ place, after.locate path = .ok place ∧
    ∀ other, other ≠ place → after.tree.fileAt? other = before.tree.fileAt? other

/-- What was written is a matter of the file trees. -/
lemma Saved.congr {before after start finish : Sandbox} {text : String}
    (h : Saved before path text after) (hstart : before.files = start.files)
    (hfinish : after.files = finish.files) : Saved start path text finish := by
  obtain ⟨hcontent, place, hlocate, hothers⟩ := h
  have htree : before.tree = start.tree := (Prod.mk.inj hstart).1
  have hafter : after.tree = finish.tree := (Prod.mk.inj hfinish).1
  refine ⟨?_, place, ?_, ?_⟩
  · rw [← read_congr hfinish, hcontent]
  · rw [← locate_congr hfinish, hlocate]
  · rwa [← htree, ← hafter]

/-- Writing where no directory stands. -/
lemma run_write {place : List String} (text : String) (hlocate : sandbox.locate path = .ok place)
    (hstatus : sandbox.tree.statusAt place ≠ .directory) :
    (Host.write path text : StateM Sandbox _).run sandbox =
      (.ok (), { sandbox with tree := sandbox.tree.put place (.file text.toUTF8) }) := by
  have hwrite : sandbox.write path text =
      .ok { sandbox with tree := sandbox.tree.put place (.file text.toUTF8) } := by
    unfold write
    rw [hlocate]
    simp only [bind, Except.bind]
  change Sandbox.change (sandbox.write path text) sandbox = _
  rw [hwrite]
  rfl

/-- A path leads where it led before if something is put there. -/
lemma locate_put {place : List String} {entry : FileEntry} (hlocate : sandbox.locate path = .ok place)
    (hstatus : sandbox.tree.statusAt place ≠ .directory) :
    ({ sandbox with tree := sandbox.tree.put place entry } : Sandbox).locate path = .ok place := by
  unfold locate at hlocate ⊢
  split at hlocate
  · cases hlocate
  · next hshort =>
    rw [if_neg hshort]
    exact FileTree.walk_put hstatus hlocate

/-- What was written at a path is read from it. -/
lemma saved_of_put {before : Sandbox} {place : List String} (text : String)
    (hlocate : sandbox.locate path = .ok place) (hstatus : sandbox.tree.statusAt place ≠ .directory)
    (hcontents : sandbox.contents = before.contents) :
    Saved before path text { sandbox with tree := sandbox.tree.put place (.file text.toUTF8) } := by
  have hlocate' : ({ sandbox with tree := sandbox.tree.put place (.file text.toUTF8) } :
      Sandbox).locate path = .ok place := locate_put hlocate hstatus
  constructor
  · unfold read
    rw [hlocate']
    simp only [bind, Except.bind]
    rw [FileTree.lookup_put, if_pos rfl]
  · refine ⟨place, hlocate', fun other hother => ?_⟩
    rw [← congrFun (Prod.mk.inj hcontents).1 other]
    exact FileTree.fileAt?_put_of_ne hother

/-- Saving a database at a writable path writes its text, or changes no file if it has none. -/
theorem run_save {db : Database} (h : sandbox.IsWritable path) :
    ∃ result after, (db.save path : StateM Sandbox _).run sandbox = (result, after) ∧
      (∀ text, db.serialize? = some text → result = .ok () ∧ Saved sandbox path text after) ∧
      (db.serialize? = none → result = .error .unacceptable ∧
        after.contents = sandbox.contents) := by
  obtain ⟨husable, ready, place, hparent, hlocate, hstatus⟩ := h
  have hcontents : ready.contents = sandbox.contents := by
    have hkeeps := (arranges_ensureParent path).keeps sandbox
    rwa [hparent] at hkeeps
  unfold Database.save
  rw [run_bind, hparent]
  dsimp only
  cases hserialize : db.serialize? with
  | none => exact ⟨_, ready, rfl, by simp, fun _ => ⟨rfl, hcontents⟩⟩
  | some text =>
    have hwrite : (Host.writeText path text : StateM Sandbox _).run ready =
        (.ok (), { ready with tree := ready.tree.put place (.file text.toUTF8) }) := by
      unfold Host.writeText
      rw [husable, if_neg (by decide), run_bind, run_write text hlocate hstatus]
      rfl
    refine ⟨_, _, hwrite, fun text' htext => ?_, by simp⟩
    obtain rfl := Option.some.inj htext
    exact ⟨rfl, saved_of_put text hlocate hstatus hcontents⟩

end Sandbox

end BindingSync
