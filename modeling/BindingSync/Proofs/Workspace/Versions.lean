import Mathlib.Data.List.Lex
import Mathlib.Data.Prod.Lex
import Mathlib.Data.String.Basic
import BindingSync.Proofs.Workspace.Keeping
import BindingSync.Proofs.Workspace.Lifting

/-!
# The order of versions

A version is a directory whose name is not hidden.  Versions are ordered by the numbers that the
runs of digits in their names write, and names with the same numbers by their characters
(`Version.Precedes`).  The name is part of what is compared, so no two names tie, and the order in
which a file system lists them does not matter (`Workspace.discover_of_listsAlike`).
-/

namespace BindingSync

open BindingSync.Text

namespace Version

/-! ### The order of names -/

/-- The longest runs of decimal digits in a name. -/
def digitRuns (name : String) : List (List Char) :=
  (name.toList.splitOnP fun c => (decimalValue? c).isNone).filter (· ≠ [])

/-- A number goes on with a digit. -/
def nextNumber (value : Nat) (c : Char) : Nat :=
  value * 10 + (decimalValue? c).getD 0

/-- The numbers that the runs of digits in a name write. -/
def runNumbers (name : String) : List Nat :=
  (digitRuns name).map (List.foldl nextNumber 0)

/-- A name comes before another one: its numbers do, or they are the same and its characters do. -/
def Precedes (a b : String) : Prop :=
  runNumbers a < runNumbers b ∨ runNumbers a = runNumbers b ∧ a < b

/-- The numbers of the runs of digits, the first of which goes on with a number that is open. -/
lemma numbersFrom_eq (text : List Char) :
    numbersFrom none text =
        (((text.splitOnP fun c => (decimalValue? c).isNone).filter (· ≠ [])).map
          (List.foldl nextNumber 0)) ∧
      ∀ value, ∃ first rest, (text.splitOnP fun c => (decimalValue? c).isNone) = first :: rest ∧
        numbersFrom (some value) text =
          first.foldl nextNumber value ::
            (rest.filter (· ≠ [])).map (List.foldl nextNumber 0) := by
  induction text with
  | nil => simp [numbersFrom]
  | cons c text ih =>
    obtain ⟨hnone, hsome⟩ := ih
    rw [List.splitOnP_cons_eq_if_modifyHead]
    cases hdigit : decimalValue? c with
    | none => simp [numbersFrom, hdigit, hnone]
    | some digit =>
      have hnext : ∀ value, nextNumber value c = value * 10 + digit := by
        simp [nextNumber, hdigit]
      constructor
      · obtain ⟨first, rest, hsplit, hnumbers⟩ := hsome digit
        simp [numbersFrom, hdigit, hsplit, hnumbers, hnext]
      · intro value
        obtain ⟨first, rest, hsplit, hnumbers⟩ := hsome (value * 10 + digit)
        exact ⟨c :: first, rest, by simp [hsplit], by simp [numbersFrom, hdigit, hnumbers, hnext]⟩

lemma numbers_eq_runNumbers (name : String) : numbers name = runNumbers name :=
  (numbersFrom_eq name.toList).1

lemma lt_iff_precedes {a b : String} : lt a b = true ↔ Precedes a b := by
  simp [lt, Precedes, numbers_eq_runNumbers]

/-- What names are compared by. -/
def orderKey (name : String) : List Nat ×ₗ String :=
  toLex (runNumbers name, name)

lemma orderKey_injective : Function.Injective orderKey :=
  fun _ _ h => congrArg (fun key => (ofLex key).2) h

lemma precedes_iff_orderKey {a b : String} : Precedes a b ↔ orderKey a < orderKey b := by
  rw [orderKey, orderKey, Prod.Lex.toLex_lt_toLex, Precedes]

lemma isStrictTotalOrder_precedes : IsStrictTotalOrder String Precedes where
  irrefl a h := lt_irrefl _ (precedes_iff_orderKey.1 h)
  trans a b c hab hbc := precedes_iff_orderKey.2
    ((precedes_iff_orderKey.1 hab).trans (precedes_iff_orderKey.1 hbc))
  trichotomous a b hab hba := by
    rw [precedes_iff_orderKey, not_lt] at hab hba
    exact orderKey_injective (le_antisymm hba hab)

lemma le_iff {a b : String} : le a b = true ↔ orderKey a ≤ orderKey b := by
  rw [le, Bool.not_eq_true', ← Bool.not_eq_true, lt_iff_precedes, precedes_iff_orderKey, not_lt]

/-! ### Sorted versions -/

lemma pairwise_sort (names : List String) :
    (sort names).Pairwise fun a b => orderKey a ≤ orderKey b := by
  have hsorted : (sort names).Pairwise fun a b => le a b = true := by
    refine List.pairwise_mergeSort (fun a b c => ?_) (fun a b => ?_) names
    · simp only [le_iff]
      exact le_trans
    · simp only [Bool.or_eq_true, le_iff]
      exact le_total _ _
  exact hsorted.imp le_iff.1

/-- Names that are listed in another order are sorted alike. -/
lemma sort_eq_of_perm {names others : List String} (h : names.Perm others) :
    sort names = sort others := by
  have hperm : (sort names).Perm (sort others) :=
    (List.mergeSort_perm _ _).trans (h.trans (List.mergeSort_perm _ _).symm)
  refine hperm.eq_of_pairwise (fun a b _ _ hab hba => ?_) (pairwise_sort _) (pairwise_sort _)
  exact orderKey_injective (le_antisymm hab hba)

/-- Different names are sorted strictly. -/
lemma pairwise_precedes_sort {names : List String} (h : names.Nodup) :
    (sort names).Pairwise Precedes := by
  have hnodup : (sort names).Nodup := (List.mergeSort_perm _ _).nodup_iff.2 h
  refine (pairwise_sort names).imp₂ (fun a b hle hne => ?_) hnodup
  exact precedes_iff_orderKey.2 (lt_of_le_of_ne hle fun heq => hne (orderKey_injective heq))

/-- Of versions in their order the last one is chosen, if there is any. -/
lemma select_none {versions : List String} (h : versions.Pairwise Precedes) :
    versions = [] ∧ select versions none = .error .noVersions ∨
      ∃ newest, select versions none = .ok newest ∧ newest ∈ versions ∧
        ∀ name ∈ versions, name ≠ newest → Precedes name newest := by
  rcases List.eq_nil_or_concat versions with rfl | ⟨older, newest, rfl⟩
  · exact .inl ⟨rfl, rfl⟩
  · refine .inr ⟨newest, by simp [select], by simp, fun name hname hne => ?_⟩
    rw [List.concat_eq_append] at h hname
    have holder : name ∈ older := by simpa [hne] using hname
    exact (List.pairwise_append.1 h).2.2 name holder newest (by simp)

/-- A version that is asked for is chosen if it is there. -/
lemma select_some_iff {versions : List String} {requested chosen : String} :
    select versions (some (.plain requested)) = .ok chosen ↔
      chosen = requested ∧ requested ∈ versions := by
  unfold select
  split
  · next hnone => simp [List.getLast?_eq_none_iff.1 hnone]
  · next heq => cases heq
  · next _ heq =>
    cases heq
    split
    · next version hfound =>
      obtain rfl : version = requested := by simpa using List.find?_some hfound
      simp [List.mem_of_find?_eq_some hfound, eq_comm]
    · next hfound =>
      have hmissing : requested ∉ versions := fun hmem => by
        simpa using List.find?_eq_none.1 hfound requested hmem
      simp [hmissing]

end Version

/-! ### Versions in a directory -/

namespace Sandbox

variable {sandbox other : Sandbox} {bindings path : Path} {crash : Crash}

/-- The path of what has a name in a directory. -/
def entryPath (directory : Path) (name : String) : Path :=
  directory.join { parts := [name] }

/-- A name in a directory of bindings is that of a version: of a directory that is not hidden. -/
structure IsVersion (sandbox : Sandbox) (bindings : Path) (name : String) : Prop where
  mem : name ∈ sandbox.names bindings
  isDirectory : sandbox.statusAt (entryPath bindings name) = .ok .directory
  isShown : name.toList.head? ≠ some '.'

/-- Two sandboxes have the same in a directory, in whatever order they list it. -/
structure ListsAlike (sandbox other : Sandbox) (directory : Path) : Prop where
  status : sandbox.statusAt directory = other.statusAt directory
  names : (sandbox.names directory).Perm (other.names directory)
  entries : ∀ name ∈ sandbox.names directory,
    sandbox.statusAt (entryPath directory name) = other.statusAt (entryPath directory name)

/-- It can be seen what stands at each name in a directory. -/
def IsReadable (sandbox : Sandbox) (directory : Path) : Prop :=
  ∀ name ∈ sandbox.names directory, (sandbox.statusAt (entryPath directory name)).isOk = true

instance (sandbox : Sandbox) (directory : Path) : Decidable (sandbox.IsReadable directory) :=
  inferInstanceAs (Decidable (∀ name ∈ sandbox.names directory, _ = true))

lemma nodup_eraseDups {α : Type} [BEq α] [LawfulBEq α] :
    ∀ items : List α, items.eraseDups.Nodup
  | [] => by simp
  | first :: rest => by
    rw [List.eraseDups_cons, List.nodup_cons]
    refine ⟨fun h => ?_, nodup_eraseDups _⟩
    simp [List.mem_eraseDups] at h
termination_by items => items.length
decreasing_by
  have := List.length_filter_le (fun b => !b == first) rest
  simp only [List.length_cons]
  omega

lemma nodup_names (sandbox : Sandbox) (path : Path) : (sandbox.names path).Nodup := by
  unfold names
  cases sandbox.locate path with
  | ok place => exact nodup_eraseDups _
  | error error => exact List.nodup_nil

lemma crash_of_statusAt (h : sandbox.statusAt path = .error crash) : crash = .fileFailure := by
  unfold statusAt status at h
  split at h
  · split at h <;> cases h
    rfl
  · cases h

lemma run_isDirectory (sandbox : Sandbox) (path : Path) :
    (Host.isDirectory path : StateM Sandbox _).run sandbox =
      ((sandbox.statusAt path).map fun status => decide (status = .directory), sandbox) := by
  rw [Host.isDirectory, run_bind, run_statusAt]
  rfl

end Sandbox

namespace Workspace

open Sandbox

variable {sandbox other : Sandbox} {bindings : Path}

/-- Asking whether a directory stands at a path gives the answer, or ends with a crash. -/
lemma run_orCrash_isDirectory {α : Type} (sandbox : Sandbox) (path : Path)
    (next : Bool → ExceptT WorkspaceFailure (StateM Sandbox) α) :
    (do let found ← orCrash (← Host.isDirectory path); next found :
        ExceptT WorkspaceFailure (StateM Sandbox) α).run.run sandbox =
      match sandbox.statusAt path with
      | .ok status => (next (decide (status = .directory))).run.run sandbox
      | .error crash => (.error (.crash crash), sandbox) := by
  rw [← Host.lift_isDirectory, ExceptT.run_bind, run_bind, run_lift, run_isDirectory]
  cases sandbox.statusAt path <;> rfl

/-- The names of versions among some names in a directory. -/
def versionsAmong (sandbox : Sandbox) (bindings : Path) (names : List String) : List String :=
  names.filter fun name =>
    sandbox.statusAt (entryPath bindings name) = .ok .directory ∧ name.toList.head? ≠ some '.'

lemma run_versionNames_of_ok {names : List String}
    (h : ∀ name ∈ names, (sandbox.statusAt (entryPath bindings name)).isOk = true) :
    (versionNames bindings names : ExceptT _ (StateM Sandbox) _).run.run sandbox =
      (.ok (versionsAmong sandbox bindings names), sandbox) := by
  induction names with
  | nil => rfl
  | cons name rest ih =>
    obtain ⟨hname, hrest⟩ := List.forall_mem_cons.1 h
    obtain ⟨status, hstatus⟩ : ∃ status,
        sandbox.statusAt (entryPath bindings name) = .ok status := by
      cases hstatus : sandbox.statusAt (entryPath bindings name) with
      | ok status => exact ⟨status, rfl⟩
      | error crash => simp [hstatus, Except.isOk, Except.toBool] at hname
    rw [versionNames]
    refine (run_orCrash_isDirectory sandbox (entryPath bindings name) _).trans ?_
    simp only [hstatus, ExceptT.run_bind, run_bind, ih hrest, versionsAmong, List.filter_cons,
      Except.ok.injEq, Bool.and_eq_true, decide_eq_true_eq, bne_iff_ne]
    rfl

/-- If it cannot be seen what stands at one of the names, the program ends. -/
lemma run_versionNames_of_error {names : List String}
    (h : ¬∀ name ∈ names, (sandbox.statusAt (entryPath bindings name)).isOk = true) :
    (versionNames bindings names : ExceptT _ (StateM Sandbox) _).run.run sandbox =
      (.error (.crash .fileFailure), sandbox) := by
  induction names with
  | nil => simp at h
  | cons name rest ih =>
    rw [versionNames]
    refine (run_orCrash_isDirectory sandbox (entryPath bindings name) _).trans ?_
    cases hstatus : sandbox.statusAt (entryPath bindings name) with
    | error crash => rw [crash_of_statusAt hstatus]
    | ok status =>
      rw [List.forall_mem_cons, hstatus] at h
      simp only [ExceptT.run_bind, run_bind, ih fun hrest => h ⟨rfl, hrest⟩]
      rfl

/-- What is found in a directory of bindings: its versions in their order, or why there are
none. -/
def foundIn (sandbox : Sandbox) (bindings : Path) : Except WorkspaceFailure (List String) :=
  match sandbox.statusAt bindings with
  | .error crash => .error (.crash crash)
  | .ok .directory =>
    if sandbox.IsReadable bindings then
      .ok (Version.sort (versionsAmong sandbox bindings (sandbox.names bindings)))
    else .error (.crash .fileFailure)
  | .ok _ => .error (.reported (.noBindings bindings))

lemma run_discover (sandbox : Sandbox) (bindings : Path) :
    (discover bindings : ExceptT _ (StateM Sandbox) _).run.run sandbox =
      (foundIn sandbox bindings, sandbox) := by
  rw [discover, foundIn]
  refine (run_orCrash_isDirectory sandbox bindings _).trans ?_
  cases hstatus : sandbox.statusAt bindings with
  | error crash => rfl
  | ok status =>
    cases status with
    | absent => rfl
    | file => rfl
    | directory =>
      have hnames : (Host.names bindings : ExceptT WorkspaceFailure (StateM Sandbox) _).run.run
          sandbox = (.ok (sandbox.names bindings), sandbox) := rfl
      simp only [decide_true, if_true, ExceptT.run_bind, run_bind, hnames]
      by_cases hreadable : sandbox.IsReadable bindings
      · rw [if_pos hreadable, run_versionNames_of_ok hreadable]
        rfl
      · rw [if_neg hreadable, run_versionNames_of_error hreadable]
        rfl

/-- Where the same is listed, the same is found. -/
lemma foundIn_eq_of_listsAlike (h : sandbox.ListsAlike other bindings) :
    foundIn sandbox bindings = foundIn other bindings := by
  have hreadable : sandbox.IsReadable bindings ↔ other.IsReadable bindings := by
    simp only [IsReadable, ← h.names.mem_iff]
    exact forall₂_congr fun name hname => by rw [h.entries name hname]
  have hversions : (versionsAmong sandbox bindings (sandbox.names bindings)).Perm
      (versionsAmong other bindings (other.names bindings)) := by
    have hfilter : versionsAmong sandbox bindings (sandbox.names bindings) =
        versionsAmong other bindings (sandbox.names bindings) :=
      List.filter_congr fun name hname => by rw [h.entries name hname]
    rw [hfilter]
    exact h.names.filter _
  simp only [foundIn, h.status, hreadable, Version.sort_eq_of_perm hversions]

lemma mem_versionsAmong {name : String} :
    name ∈ versionsAmong sandbox bindings (sandbox.names bindings) ↔
      sandbox.IsVersion bindings name := by
  rw [versionsAmong, List.mem_filter, decide_eq_true_iff]
  exact ⟨fun ⟨hmem, hdirectory, hshown⟩ => ⟨hmem, hdirectory, hshown⟩,
    fun h => ⟨h.mem, h.isDirectory, h.isShown⟩⟩

/-- What is found in a directory does not depend on the order in which the file system lists it:
every version once, and each before those that it precedes, which is a strict total order of all
names.  So the version that is chosen if none is asked for is the one that all others precede. -/
theorem discover_of_listsAlike (h : sandbox.ListsAlike other bindings) :
    IsStrictTotalOrder String Version.Precedes ∧
    ∃ result : Except WorkspaceFailure (List String),
      (discover bindings : ExceptT _ (StateM Sandbox) _).run.run sandbox = (result, sandbox) ∧
      (discover bindings : ExceptT _ (StateM Sandbox) _).run.run other = (result, other) ∧
      ((∃ versions, result = .ok versions) ↔
        sandbox.statusAt bindings = .ok .directory ∧ sandbox.IsReadable bindings) ∧
      ∀ versions, result = .ok versions →
        (∀ name, name ∈ versions ↔ sandbox.IsVersion bindings name) ∧
        versions.Pairwise Version.Precedes ∧
        (versions = [] ∧ Version.select versions none = .error .noVersions ∨
          ∃ newest, Version.select versions none = .ok newest ∧ newest ∈ versions ∧
            ∀ name ∈ versions, name ≠ newest → Version.Precedes name newest) := by
  refine ⟨Version.isStrictTotalOrder_precedes, foundIn sandbox bindings, run_discover _ _, ?_, ?_,
    fun versions hversions => ?_⟩
  · rw [run_discover, foundIn_eq_of_listsAlike h]
  · unfold foundIn
    split
    · simp [*]
    · split <;> simp [*]
    · simp_all
  · have hsort : versions =
        Version.sort (versionsAmong sandbox bindings (sandbox.names bindings)) := by
      unfold foundIn at hversions
      split at hversions
      · cases hversions
      · split at hversions <;> cases hversions
        rfl
      · cases hversions
    have hpairwise : versions.Pairwise Version.Precedes :=
      hsort ▸ Version.pairwise_precedes_sort ((nodup_names sandbox bindings).filter _)
    refine ⟨fun name => ?_, hpairwise, Version.select_none hpairwise⟩
    rw [hsort, Version.sort, (List.mergeSort_perm _ _).mem_iff, mem_versionsAmong]

/-- Versions with the same numbers, with fewer numbers and with digits of another script, and beside
them a hidden directory and a file. -/
def versionsTree : FileTree :=
  [(["b", "2.10"], .directory), (["b", "2.2"], .directory), (["b", "2.02"], .directory),
    (["b", "2.٢"], .directory), (["b", "2"], .directory), (["b", ".git"], .directory),
    (["b", "README.md"], .file "".toUTF8)]

/-- A file system that lists `versionsTree` from its end gives the same versions. -/
theorem discover_of_listsAlike_reverse :
    let bindings : Path := { parts := ["b"] }
    let sandbox : Sandbox := { tree := versionsTree }
    let other : Sandbox := { tree := versionsTree.reverse }
    sandbox.ListsAlike other bindings ∧ sandbox.names bindings ≠ other.names bindings ∧
      (discover bindings : ExceptT _ (StateM Sandbox) _).run.run sandbox =
        (.ok ["2", "2.02", "2.2", "2.٢", "2.10"], sandbox) ∧
      (discover bindings : ExceptT _ (StateM Sandbox) _).run.run other =
        (.ok ["2", "2.02", "2.2", "2.٢", "2.10"], other) := by
  intro bindings sandbox other
  have halike : sandbox.ListsAlike other bindings :=
    ⟨by decide +kernel, by decide +kernel, by decide +kernel⟩
  obtain ⟨-, result, hsandbox, hother, -⟩ := discover_of_listsAlike halike
  obtain rfl : result = .ok ["2", "2.02", "2.2", "2.٢", "2.10"] := by
    have hfound : foundIn sandbox bindings = result :=
      congrArg Prod.fst ((run_discover sandbox bindings).symm.trans hsandbox)
    have hstatus : sandbox.statusAt bindings = .ok .directory := by decide +kernel
    have hperm : (versionsAmong sandbox bindings (sandbox.names bindings)).Perm
        ["2", "2.02", "2.2", "2.٢", "2.10"] := by decide +kernel
    rw [← hfound, foundIn, hstatus]
    dsimp only
    rw [if_pos (by decide +kernel), Version.sort_eq_of_perm hperm, Version.sort,
      List.mergeSort_of_pairwise (by decide +kernel)]
  exact ⟨halike, by decide +kernel, hsandbox, hother⟩

end Workspace

end BindingSync
