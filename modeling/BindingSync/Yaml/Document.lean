import BindingSync.Crash
import BindingSync.Yaml.Atom

/-!
# YAML documents

The value of a YAML text is an atom or a collection.  A collection may hold itself, so the
collections stand in a table, and a value knows a collection by its number.

How a text becomes a document is the business of a library.  Whatever reads YAML does so through
`Loader`, of which nothing is known but what comes of a text.
-/

namespace BindingSync.Yaml

/-- A value. -/
inductive Value where
  | atom (atom : Atom)
  /-- A collection by its number. -/
  | collection (number : Nat)
deriving DecidableEq, Repr, Inhabited

/-- A value with parts. -/
inductive Collection where
  | list (items : List Value)
  /-- A list of pairs. -/
  | pairs (items : List (Value × Value))
  | mapping (pairs : List (Atom × Value))
  | set (members : List Atom)
deriving DecidableEq, Repr, Inhabited

/-- The value of a text with the collections in it. -/
structure Document where
  root : Value := .atom .null
  collections : Array (Option Collection) := #[]
deriving Inhabited

namespace Document

/-- The collection that a value is. -/
def collection? (document : Document) : Value → Option Collection
  | .atom _ => none
  | .collection number => (document.collections[number]?).join

end Document

/-- Why a text gives no document. -/
inductive LoadFailure where
  /-- The text is no YAML; the wording says why. -/
  | invalid (reason : String)
  /-- Reading the text ends the program. -/
  | crash (crash : Crash)
deriving DecidableEq, Repr, Inhabited

/-- A library that reads YAML. -/
class Loader where
  /-- What comes of a text. -/
  load : String → Except LoadFailure Document

end BindingSync.Yaml
