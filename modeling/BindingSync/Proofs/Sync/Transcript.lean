import Mathlib.Data.List.Basic
import Mathlib.Tactic.Common
import BindingSync.Sync.Run

/-!
# Transcripts of runs

Who answers the conflicts of a run is not known to the run.  A transcript lists the conflicts
that were asked with the answers that came, and `Dialogue.Ends` says how a dialogue ends under
a transcript.  Whoever answers, by a fixed rule, from a script or by hand, leaves a transcript,
so a statement about every transcript is a statement about everybody who may answer.

A part of a run is a dialogue over the progress made so far.  `Sync.Returns` says that it comes
to its end, and the lemmas of this file take that apart along the `do` blocks of which runs are
made.
-/

namespace BindingSync

namespace Dialogue

/-- The conflicts that were asked, in order, each with its answer; an answer may be missing. -/
abbrev Transcript := List (Conflict × Option Decision)

/-- Under the answers of the transcript the dialogue asks its conflicts and ends with the
value. -/
inductive Ends {α : Type} : Dialogue α → Transcript → α → Prop
  /-- A dialogue that is done asks nothing. -/
  | done (value : α) : Ends (.done value) [] value
  /-- A dialogue that asks goes on with the answer. -/
  | ask {conflict : Conflict} {next : Option Decision → Dialogue α} {answer : Option Decision}
      {log : Transcript} {value : α} (h : Ends (next answer) log value) :
      Ends (.ask conflict next) ((conflict, answer) :: log) value

variable {α β γ : Type}

/-- A dialogue that is done has one transcript, the empty one. -/
@[simp] lemma ends_done_iff {value a : α} {log : Transcript} :
    (done value).Ends log a ↔ log = [] ∧ a = value := by
  constructor
  · rintro ⟨⟩
    exact ⟨rfl, rfl⟩
  · rintro ⟨rfl, rfl⟩
    exact .done a

/-- A dialogue that asks has the conflict at the head of its transcript. -/
@[simp] lemma ends_ask_iff {conflict : Conflict} {next : Option Decision → Dialogue α}
    {log : Transcript} {value : α} :
    (ask conflict next).Ends log value ↔
      ∃ answer rest, log = (conflict, answer) :: rest ∧ (next answer).Ends rest value := by
  constructor
  · rintro ⟨⟩
    exact ⟨_, _, rfl, ‹_›⟩
  · rintro ⟨answer, rest, rfl, h⟩
    exact .ask h

/-- The transcript of two dialogues in a row is that of the first before that of the second. -/
lemma ends_bind_iff {d : Dialogue α} {f : α → Dialogue β} {log : Transcript} {b : β} :
    (d.bind f).Ends log b ↔
      ∃ first a second, d.Ends first a ∧ (f a).Ends second b ∧ log = first ++ second := by
  induction d generalizing log with
  | done value => simp [bind]
  | ask conflict next ih =>
    simp only [bind, ends_ask_iff, ih]
    constructor
    · rintro ⟨answer, rest, rfl, first, a, second, h₁, h₂, rfl⟩
      exact ⟨_, a, second, ⟨answer, first, rfl, h₁⟩, h₂, rfl⟩
    · rintro ⟨_, a, second, ⟨answer, first, rfl, h₁⟩, h₂, rfl⟩
      exact ⟨answer, _, rfl, first, a, second, h₁, h₂, rfl⟩

/-- A dialogue that goes on with nothing is itself. -/
lemma bind_done (d : Dialogue α) : d.bind done = d := by
  induction d with
  | done value => rfl
  | ask conflict next ih => simp only [bind, ih]

/-- It does not matter how three dialogues in a row are grouped. -/
lemma bind_assoc (d : Dialogue α) (f : α → Dialogue β) (g : β → Dialogue γ) :
    (d.bind f).bind g = d.bind fun a => (f a).bind g := by
  induction d with
  | done value => rfl
  | ask conflict next ih => simp only [bind, ih]

/-- The run in which every conflict is answered alike has a transcript of such answers. -/
lemma exists_ends_runFixed (decision : Decision) (d : Dialogue α) :
    ∃ log, d.Ends log (d.runFixed decision) ∧ ∀ entry ∈ log, entry.2 = some decision := by
  induction d with
  | done value => exact ⟨[], .done value, by simp⟩
  | ask conflict next ih =>
    obtain ⟨log, hends, hall⟩ := ih (some decision)
    exact ⟨(conflict, some decision) :: log, .ask hends, by simpa using hall⟩

/-- The answers of a transcript are the ones that somebody gives, who remembers what he likes
from one answer to the next. -/
inductive AnsweredBy {σ : Type} (answer : Conflict → StateM σ (Option Decision)) :
    σ → Transcript → σ → Prop
  /-- Without a question he is as before. -/
  | nil (state : σ) : AnsweredBy answer state [] state
  /-- The later answers are given by who he is after the first one. -/
  | cons {before between after : σ} {conflict : Conflict} {given : Option Decision}
      {log : Transcript} (hgiven : (answer conflict).run before = (given, between))
      (hrest : AnsweredBy answer between log after) :
      AnsweredBy answer before ((conflict, given) :: log) after

/-- A dialogue with somebody has a transcript of his answers. -/
lemma exists_ends_of_runM {σ : Type} (answer : Conflict → StateM σ (Option Decision))
    (d : Dialogue α) (state : σ) :
    ∃ log, d.Ends log ((d.runM answer).run state).1 ∧
      AnsweredBy answer state log ((d.runM answer).run state).2 := by
  induction d generalizing state with
  | done value => exact ⟨[], .done value, .nil state⟩
  | ask conflict next ih =>
    obtain ⟨given, between, hgiven⟩ :
        ∃ given between, (answer conflict).run state = (given, between) := ⟨_, _, rfl⟩
    have hrun : ((ask conflict next).runM answer).run state =
        ((next given).runM answer).run between := by
      rw [runM, StateT.run_bind, hgiven]
      rfl
    obtain ⟨log, hends, hanswered⟩ := ih given between
    rw [hrun]
    exact ⟨(conflict, given) :: log, .ask hends, .cons hgiven hanswered⟩

end Dialogue

namespace Outcome

/-- The run came to its end. -/
def isDone {α : Type} : Outcome α → Bool
  | done _ _ => true
  | stopped _ _ => false

/-- A run that came to its end did so with the progress it made. -/
lemma eq_done_of_isDone {outcome : Outcome Unit} (h : outcome.isDone = true) :
    outcome = .done () outcome.progress := by
  cases outcome with
  | done _ progress => rfl
  | stopped cause progress => cases h

/-- The place at which the run was aborted, if it was. -/
def abortedAt? {α : Type} : Outcome α → Option String
  | stopped (.aborted location) _ => some location
  | _ => none

/-- A run that was aborted stopped with the progress it made. -/
lemma eq_stopped_of_abortedAt? {α : Type} {outcome : Outcome α} {location : String}
    (h : outcome.abortedAt? = some location) :
    outcome = .stopped (.aborted location) outcome.progress := by
  cases outcome with
  | done _ _ => cases h
  | stopped cause progress =>
    cases cause with
    | aborted place =>
      cases h
      rfl
    | _ => cases h

end Outcome

open Dialogue (Transcript)

namespace Sync

variable {α β : Type}

/-- Under the transcript the part comes to its end with a value. -/
def Returns (part : Sync α) (before : Progress) (log : Transcript) (value : α)
    (after : Progress) : Prop :=
  (part before).Ends log (.done value after)

variable {before after : Progress} {log : Transcript}

/-- Two parts in a row, at a progress. -/
lemma bind_apply (part : Sync α) (next : α → Sync β) (before : Progress) :
    (part >>= next) before = (part before).bind fun
      | .done value progress => next value progress
      | .stopped cause progress => .done (.stopped cause progress) := rfl

/-- A part that does nothing, at a progress. -/
lemma pure_apply (value : α) (before : Progress) :
    (pure value : Sync α) before = .done (.done value before) := rfl

/-- A part whose value is passed on as it is stays the part. -/
lemma map_id_part (part : Sync α) : id <$> part = part := by
  funext before
  rw [← Dialogue.bind_done (part before)]
  change (part before).bind _ = _
  congr 1
  funext outcome
  cases outcome <;> rfl

/-- It does not matter how three parts in a row are grouped. -/
lemma bind_assoc_parts {γ : Type} (part : Sync α) (next : α → Sync β) (last : β → Sync γ) :
    part >>= next >>= last = part >>= fun a => next a >>= last := by
  funext before
  simp only [bind_apply, Dialogue.bind_assoc]
  congr 1
  funext outcome
  cases outcome <;> rfl

instance : LawfulMonad Sync :=
  LawfulMonad.mk' Sync map_id_part (fun _ _ => rfl) bind_assoc_parts

@[simp] lemma returns_pure_iff {value a : α} :
    (pure value : Sync α).Returns before log a after ↔ log = [] ∧ a = value ∧ after = before := by
  simp [Returns, pure_apply]

/-- Two parts in a row return if both do, the second from where the first one ended. -/
lemma returns_bind_iff {part : Sync α} {next : α → Sync β} {b : β} :
    (part >>= next).Returns before log b after ↔
      ∃ first a between second, part.Returns before first a between ∧
        (next a).Returns between second b after ∧ log = first ++ second := by
  simp only [Returns, bind_apply, Dialogue.ends_bind_iff]
  constructor
  · rintro ⟨first, outcome, second, h₁, h₂, rfl⟩
    cases outcome with
    | done a between => exact ⟨first, a, between, second, h₁, h₂, rfl⟩
    | stopped cause between => simp at h₂
  · rintro ⟨first, a, between, second, h₁, h₂, rfl⟩
    exact ⟨first, .done a between, second, h₁, h₂, rfl⟩

/-- If a first part silently returns, the rest goes on from where it ended. -/
lemma bind_of_done {part : Sync α} {next : α → Sync β} {value : α}
    (h : part before = .done (.done value after)) :
    (part >>= next) before = next value after := by
  rw [bind_apply, h]
  rfl

/-- A part that silently returns does so under the empty transcript only. -/
lemma returns_of_done {part : Sync α} {value a : α} {between : Progress}
    (h : part before = .done (.done value between)) :
    part.Returns before log a after ↔ log = [] ∧ a = value ∧ after = between := by
  simp [Returns, h]

/-- What ends the run does not return. -/
@[simp] lemma not_returns_stop {cause : Stop} {a : α} :
    ¬(stop cause : Sync α).Returns before log a after := by
  simp [Returns, stop]

/-- Under the transcript the part ends the run. -/
def Stops (part : Sync α) (before : Progress) (log : Transcript) (cause : Stop)
    (after : Progress) : Prop :=
  (part before).Ends log (.stopped cause after)

/-- A part that does nothing does not end the run. -/
@[simp] lemma not_stops_pure {value : α} {cause : Stop} :
    ¬(pure value : Sync α).Stops before log cause after := by
  simp [Stops, pure_apply]

/-- Two parts in a row end the run if the first one does, or if the second one does from where
the first one ended. -/
lemma stops_bind_iff {part : Sync α} {next : α → Sync β} {cause : Stop} :
    (part >>= next).Stops before log cause after ↔
      part.Stops before log cause after ∨
        ∃ first a between second, part.Returns before first a between ∧
          (next a).Stops between second cause after ∧ log = first ++ second := by
  simp only [Stops, Returns, bind_apply, Dialogue.ends_bind_iff]
  constructor
  · rintro ⟨first, outcome, second, hfirst, hsecond, rfl⟩
    cases outcome with
    | done a between => exact .inr ⟨first, a, between, second, hfirst, hsecond, rfl⟩
    | stopped early between =>
      obtain ⟨rfl, hout⟩ := Dialogue.ends_done_iff.1 hsecond
      cases hout
      exact .inl (by rwa [List.append_nil])
  · rintro (hpart | ⟨first, a, between, second, hpart, hnext, rfl⟩)
    · exact ⟨log, .stopped cause after, [], hpart, .done _, (List.append_nil log).symm⟩
    · exact ⟨first, .done a between, second, hpart, hnext, rfl⟩

/-- A part that asks nothing ends the run under the empty transcript only. -/
lemma stops_of_done {part : Sync α} {outcome : Outcome α} {cause : Stop}
    (h : part before = .done outcome) :
    part.Stops before log cause after ↔ log = [] ∧ outcome = .stopped cause after := by
  rw [Stops, h, Dialogue.ends_done_iff, eq_comm (a := outcome)]

end Sync

end BindingSync
