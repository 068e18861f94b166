import BindingSync.Proofs.Sync.CutShort

/-!
# Aborted runs

An abort undoes nothing and does nothing more.  The entries in front of the one at which a run
was aborted were synchronized as in a run of their own with the same answers, and of the entry
itself nothing remains but the types and categories that it names
(`Sync.exists_handled_of_aborted`).  Above all, no function is created and then left behind,
because a function that is created has no signature to be asked about.
-/

namespace BindingSync.Sync

open BindingSync.Binding
open BindingSync.Dialogue (Transcript)

/-- A run that was aborted did the steps of all entries in front of one, whose name it reports,
and introduced the types that this one mentions.  Only answers abort: reading a file may end a run
in other ways, but not in this one. -/
theorem exists_handled_of_aborted {platform : Platform} {files : List Source} {db : Database}
    {log : Transcript} {location : String} {progress : Progress}
    (hends : (synchronize platform files db).Ends log (.stopped (.aborted location) progress))
    (hfiles : ∀ file ∈ files, file.text ≠ .error (.aborted location)) :
    ∃ handled e rest first last between placeholders,
      entries platform files = handled ++ e :: rest ∧ log = first ++ last ∧
      (each (entry platform) handled).Returns { db } first () between ∧
      (entry platform e).Stops between last (.aborted location) progress ∧
      location = e.location ∧
      Introduces (Declared.mentioned e.cls e.decl) between progress placeholders := by
  have hstops : (sources platform files).Stops { db } log (.aborted location) progress := hends
  generalize hcause : Stop.aborted location = cause at hstops
  cases cutShort_of_stops hstops with
  | atFile _ hfile hrefuses _ =>
    cases hrefuses with
    | missing htext =>
      rw [← hcause] at htext
      exact absurd htext (hfiles _ hfile)
    | unparsable _ _ => cases hcause
  | atEntry hentries hhandled hstop =>
    obtain ⟨hlocation, placeholders, introduces⟩ :=
      introduces_of_stops_aborted (hcause ▸ hstop)
    exact ⟨_, _, _, _, _, _, placeholders, hentries, rfl, hhandled, hstop, hlocation, introduces⟩

/-- A binding file whose second function is not what a user made of it in `playerDatabase`. -/
def clockFile : Source where
  label := "clock.bro"
  text := .ok ("class Player \x7b\n  Team* team() = win 0x20;\n" ++
    "  bool update(gd::Clock* clock) = win 0x10;\n\x7d\n")

/-- The new function in front of the one that is refused stays, and so does the type that the
refused one mentions. -/
theorem exists_handled_of_aborted_clock :
    ∃ log progress,
      (synchronize .windows [clockFile] playerDatabase).Ends log
        (.stopped (.aborted "Player::update") progress) ∧
      (∀ file ∈ [clockFile], file.text ≠ .error (.aborted "Player::update")) ∧
      progress.added = ["Player::team"] ∧ progress.updated = [] ∧
      progress.db.userTypes.map (fun type => type.path.toString) =
        ["/Team", "/Player", "/gd/Clock"] ∧
      ∃ handled e rest first last between placeholders,
        entries .windows [clockFile] = handled ++ e :: rest ∧ log = first ++ last ∧
        (each (entry .windows) handled).Returns { db := playerDatabase } first () between ∧
        (entry .windows e).Stops between last (.aborted "Player::update") progress ∧
        "Player::update" = e.location ∧
        Introduces (Declared.mentioned e.cls e.decl) between progress placeholders := by
  let run := (synchronize .windows [clockFile] playerDatabase).runFixed .abort
  obtain ⟨log, hends, -⟩ :=
    Dialogue.exists_ends_runFixed .abort (synchronize .windows [clockFile] playerDatabase)
  obtain ⟨haborted, hadded, hupdated, htypes⟩ : run.abortedAt? = some "Player::update" ∧
      run.progress.added = ["Player::team"] ∧ run.progress.updated = [] ∧
      run.progress.db.userTypes.map (fun type => type.path.toString) =
        ["/Team", "/Player", "/gd/Clock"] := by decide +kernel
  have hstopped : (synchronize .windows [clockFile] playerDatabase).Ends log
      (.stopped (.aborted "Player::update") run.progress) := by
    rw [← Outcome.eq_stopped_of_abortedAt? haborted]
    exact hends
  have hfiles : ∀ file ∈ [clockFile], file.text ≠ .error (.aborted "Player::update") := by
    simp [clockFile]
  exact ⟨log, run.progress, hstopped, hfiles, hadded, hupdated, htypes,
    exists_handled_of_aborted hstopped hfiles⟩

end BindingSync.Sync
