import BindingSync.Proofs.Sync.Replay
import BindingSync.Proofs.Sync.Summary

/-!
# What becomes of one entry

A statement about one entry of a run does not want to hear of the others.  If no other entry has
the same offset, then the run gets to the entry or it does not, and it comes through the entry or
stops there.  `Sync.fate_of_ends` says what this makes of the function at the address of the entry:
either its step came to its end, and what the step wrote is there when the run has ended, or a
function that was there before is as it was.

The part of the transcript in which the entry was handled (`Sync.HandledIn`) is named along with
it.  The conflicts of a transcript carry the name of a function only, and functions that overload
each other share it, so that the name would not do to tell whose conflict it is.
-/

namespace BindingSync

open BindingSync.Binding
open BindingSync.Text
open BindingSync.Dialogue (Transcript)
open BindingSync.Database (Frame)

namespace Sync

variable {before after : Progress} {log : Transcript} {platform : Platform}

/-- In a run whose transcript is given, the entry behind some others was handled in a part of the
transcript. -/
def HandledIn (platform : Platform) (front : List Entry) (e : Entry) (db : Database)
    (log part : Transcript) : Prop :=
  ∃ first last between outcome, log = first ++ part ++ last ∧
    (each (entry platform) front).Returns { db } first () between ∧
      (entry platform e between).Ends part outcome

/-- The step of an entry came to its end, and what it wrote is there at the end of the run. -/
structure CameThrough (platform : Platform) (front : List Entry) (e : Entry) (db : Database)
    (log : Transcript) (final : Database) where
  part : Transcript
  start : Progress
  finish : Progress
  step : Step platform e.cls e.decl e.offset start part finish
  handled : HandledIn platform front e db log part
  /-- The step began with the function of the database before the run. -/
  begins : e.function? start.db = e.function? db
  stays : e.function? final = some step.result
  grows : finish.db.Grows final

/-- The step of an entry with another offset leaves the function of an entry alone. -/
lemma Halted.function?_of_ne {e other : Entry} {cause : Stop}
    (h : Halted platform other.cls other.decl other.offset before log cause after)
    (hother : e.offset ≠ other.offset) : e.function? after.db = e.function? before.db := by
  have hframe : Frame (IsAddressOf [other] before.db) before.db after.db :=
    h.frame.mono fun address haddress => ⟨other, List.mem_singleton_self _, haddress⟩
  exact function?_of_frame hframe (by simpa using hother)

/-- A step that stops leaves the function alone that it found. -/
lemma Halted.function?_of_found {e : Entry} {cause : Stop} {function : FunctionRecord}
    (h : Halted platform e.cls e.decl e.offset before log cause after)
    (hfunction : e.function? before.db = some function) : e.function? after.db = some function := by
  rcases h.cases_db with hdb | ⟨base, _, _, start, typed, _, _, hbase, located, introduces, hdb⟩
  · rw [hdb, hfunction]
  · have haddress : e.address? before.db = some (base + e.offset) := by
      rw [Entry.address?, hbase]
      rfl
    have hfound : before.db.functionAt? (base + e.offset) = some function := by
      rwa [Entry.function?, haddress] at hfunction
    have hstart : start.db.functionAt? (base + e.offset) = some function := by
      cases located with
      | found _ => exact hfound
      | created hnone _ => exact absurd (hnone.symm.trans hfound) (by simp)
    rw [Entry.function?, hdb, address?_of_grows (located.grows.trans introduces.grows), haddress,
      Option.bind_some, introduces.functionAt?, hstart]

/-- Where the entries of a run are cut, an entry is behind the cut or in front of it. -/
lemma cases_of_append_eq {handled rest front back : List Entry} {e : Entry}
    (h : handled ++ rest = front ++ e :: back) :
    (∃ more, handled = front ++ e :: more ∧ back = more ++ rest) ∨
      ∃ more, front = handled ++ more ∧ rest = more ++ e :: back := by
  rcases List.append_eq_append_iff.1 h with ⟨more, hfront, hrest⟩ | ⟨more, hhandled, hback⟩
  · exact .inr ⟨more, hfront, hrest⟩
  · cases more with
    | nil =>
      rw [List.append_nil] at hhandled
      exact .inr ⟨[], by simp [hhandled], by simpa using hback.symm⟩
    | cons first more =>
      obtain ⟨rfl, rfl⟩ := List.cons.inj hback
      exact .inl ⟨more, hhandled, rfl⟩

/-- What came through is still there after changes elsewhere. -/
lemma CameThrough.mono {front : List Entry} {e : Entry} {db final later : Database}
    (h : CameThrough platform front e db log final) (hgrows : final.Grows later)
    (hfunction : e.function? later = e.function? final) :
    Nonempty (CameThrough platform front e db log later) :=
  ⟨{ h with stays := hfunction.trans h.stays, grows := h.grows.trans hgrows }⟩

/-- After the steps of some entries, an entry that was among them came through, and the function of
any other one is as it was. -/
lemma fate_of_returns {handled rest front back : List Entry} {e : Entry} {db : Database}
    {first : Transcript} (last : Transcript)
    (h : (each (entry platform) handled).Returns { db } first () after)
    (hcut : handled ++ rest = front ++ e :: back)
    (hfresh : e.offset ∉ (front ++ back).map Entry.offset) :
    (Nonempty (CameThrough platform front e db (first ++ last) after.db) ∧
        ∃ more, back = more ++ rest) ∨
      e.function? after.db = e.function? db ∧ ∃ more, rest = more ++ e :: back := by
  rw [List.map_append, List.mem_append, not_or] at hfresh
  obtain ⟨hfront, hback⟩ := hfresh
  rcases cases_of_append_eq hcut with ⟨more, rfl, rfl⟩ | ⟨more, rfl, hrest⟩
  · left
    rw [each_append] at h
    obtain ⟨early, _, start, late, hearly, hlater, rfl⟩ := returns_bind_iff.1 h
    obtain ⟨part, _, finish, tail, hpart, hmore, rfl⟩ := returns_bind_iff.1 hlater
    obtain ⟨step⟩ := nonempty_step_of_returns hpart
    have hlate : e.offset ∉ more.map Entry.offset := by
      intro hmem
      apply hback
      rw [List.map_append]
      exact List.mem_append_left _ hmem
    have hfinish : e.function? after.db = e.function? finish.db :=
      function?_of_frame (frame_of_returns_each hmore) hlate
    exact ⟨⟨{
      part, start, finish, step
      handled := ⟨early, tail ++ last, start, _, by simp, hearly, hpart⟩
      begins := function?_of_frame (frame_of_returns_each hearly) hfront
      stays := hfinish.trans step.function?_after
      grows := grows_of_returns_each hmore }⟩, more, rfl⟩
  · right
    have hhandled : e.offset ∉ handled.map Entry.offset := by
      intro hmem
      apply hfront
      rw [List.map_append]
      exact List.mem_append_left _ hmem
    exact ⟨function?_of_frame (frame_of_returns_each h) hhandled, more, hrest⟩

/-- In a run that comes to its end, the only entry with its offset came through. -/
lemma cameThrough_of_ends {files : List Source} {front back : List Entry} {e : Entry}
    {db : Database} {progress : Progress}
    (hends : (synchronize platform files db).Ends log (.done () progress))
    (hentries : entries platform files = front ++ e :: back)
    (hfresh : e.offset ∉ (front ++ back).map Entry.offset) :
    Nonempty (CameThrough platform front e db log progress.db) := by
  have hreturns := returns_each_of_returns_sources hends
  have hcut := (List.append_nil _).trans hentries
  rcases fate_of_returns [] hreturns hcut hfresh with ⟨hcame, -⟩ | ⟨-, more, hnil⟩
  · rwa [List.append_nil] at hcame
  · simp at hnil

/-- However a run ends, the only entry with its offset came through, or the function that was there
before is as it was. -/
theorem fate_of_ends {files : List Source} {front back : List Entry} {e : Entry} {db : Database}
    {outcome : Outcome Unit} (hends : (synchronize platform files db).Ends log outcome)
    (hentries : entries platform files = front ++ e :: back)
    (hfresh : e.offset ∉ (front ++ back).map Entry.offset) :
    Nonempty (CameThrough platform front e db log outcome.progress.db) ∨
      ∀ function, e.function? db = some function →
        e.function? outcome.progress.db = some function := by
  cases outcome with
  | done _ progress => exact .inl (cameThrough_of_ends hends hentries hfresh)
  | stopped cause progress =>
    cases cutShort_of_stops hends with
    | atFile hcut _ _ hhandled =>
      have hfate := fate_of_returns [] hhandled (hcut.symm.trans hentries) hfresh
      rcases hfate with ⟨hcame, -⟩ | ⟨hsame, -⟩
      · rw [List.append_nil] at hcame
        exact .inl hcame
      · exact .inr fun function hfunction => hsame.trans hfunction
    | @atEntry handled rest other first last _ between _ hcut hhandled hstops =>
      have halted := halted_of_stops hstops
      have hfate := fate_of_returns last hhandled (hcut.symm.trans hentries) hfresh
      by_cases hother : e.offset = other.offset
      · -- Only the entry itself has its offset, so that it is its own step that stopped.
        have hmem : other ∈ front ++ e :: back := by
          rw [← hentries, hcut]
          simp
        have hall : ∀ found ∈ front ++ back, found.offset ≠ e.offset := by
          intro found hfound heq
          exact hfresh (heq ▸ List.mem_map_of_mem hfound)
        rcases hfate with ⟨-, more, rfl⟩ | ⟨hbefore, -⟩
        · exact absurd hother.symm (hall other (by simp))
        · right
          intro function hfunction
          have hsame : other = e := by
            rcases List.mem_append.1 hmem with hmem | hmem
            · exact absurd hother.symm (hall other (List.mem_append_left _ hmem))
            · rcases List.mem_cons.1 hmem with heq | hmem
              · exact heq
              · exact absurd hother.symm (hall other (List.mem_append_right _ hmem))
          rw [hsame] at halted
          exact halted.function?_of_found (hbefore.trans hfunction)
      · have hsame := halted.function?_of_ne hother
        rcases hfate with ⟨⟨hcame⟩, -⟩ | ⟨hbefore, -⟩
        · exact .inl (hcame.mono halted.frame.toGrows hsame)
        · exact .inr fun function hfunction => (hsame.trans hbefore).trans hfunction

end Sync

end BindingSync
