/-!
# Conflicts and decisions

A declaration may disagree with what a user wrote into the database by hand.  Such a conflict
is put to somebody who decides it: a person, a fixed rule or a script.  A computation that
asks is a `Dialogue`: it is either done, or it asks one conflict and goes on with the answer.
Whoever answers is given only when a dialogue is run, so a statement about all paths through a
dialogue is a statement about everybody who may answer.
-/

namespace BindingSync

/-- The part of a signature that disagrees. -/
inductive ConflictKind where
  | signature | returnType
deriving DecidableEq, Repr, Inhabited

namespace ConflictKind

/-- The name of the part. -/
def name : ConflictKind → String
  | signature => "signature"
  | returnType => "return type"

end ConflictKind

/-- How a conflict is settled. -/
inductive Decision where
  | useIncoming | keepExisting | abort
deriving DecidableEq, Repr, Inhabited

/-- A disagreement at a function between the declared value and the one in the database, both
in their written forms. -/
structure Conflict where
  location : String
  kind : ConflictKind
  incoming : String
  existing : String
deriving DecidableEq, Repr, Inhabited

namespace Conflict

/-- The description for prompts, in three lines. -/
def describe (conflict : Conflict) : String :=
  s!"Conflict between {conflict.kind.name}s in {conflict.location}:\n" ++
    s!"  Broma:    {conflict.incoming}\n" ++
    s!"  Database: {conflict.existing}"

end Conflict

/-- A computation that may ask for decisions.  An answer may be missing. -/
inductive Dialogue (α : Type) where
  | done (value : α)
  | ask (conflict : Conflict) (next : Option Decision → Dialogue α)

namespace Dialogue

/-- Goes on with the value of a dialogue. -/
def bind {α β : Type} : Dialogue α → (α → Dialogue β) → Dialogue β
  | done value, f => f value
  | ask conflict next, f => ask conflict fun answer => bind (next answer) f

instance : Monad Dialogue where
  pure := done
  bind := bind

/-- Runs a dialogue, with the answers as effects of a monad. -/
def runM {m : Type → Type} [Monad m] {α : Type} (answer : Conflict → m (Option Decision)) :
    Dialogue α → m α
  | done value => pure value
  | ask conflict next => do runM answer (next (← answer conflict))

/-- Runs a dialogue in which every conflict is answered alike. -/
def runFixed {α : Type} (decision : Decision) : Dialogue α → α
  | done value => value
  | ask _ next => runFixed decision (next (some decision))

end Dialogue

/-- A fixed sequence of decisions, and the conflicts that used them up so far. -/
structure Script where
  decisions : List Decision
  seen : List Conflict := []
deriving DecidableEq, Repr, Inhabited

namespace Script

/-- The next decision of a script, if one is left; only then the conflict counts as seen. -/
def answer (conflict : Conflict) : StateM Script (Option Decision) := fun script =>
  match script.decisions with
  | [] => (none, script)
  | decision :: rest => (some decision, ⟨rest, script.seen ++ [conflict]⟩)

end Script

end BindingSync
