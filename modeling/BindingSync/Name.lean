/-!
# Qualified names

A qualified name is a base name inside a list of scopes, written with `::` between the
segments.  There is always a base name, so a qualified name has at least one segment; the
segments of a name read from a text never contain the separator.
-/

namespace BindingSync

/-- A name inside a list of scopes, the outermost first. -/
structure QualifiedName where
  scopes : List String := []
  base : String
deriving DecidableEq, Repr, Inhabited

namespace QualifiedName

/-- All segments in writing order; the base name is the last. -/
def segments (name : QualifiedName) : List String :=
  name.scopes ++ [name.base]

/-- The name with the given segments, of which there is at least one. -/
def ofSegments : String → List String → QualifiedName
  | base, [] => { base }
  | scope, next :: rest =>
    let inner := ofSegments next rest
    { inner with scopes := scope :: inner.scopes }

/-- Joins segments with the scope separator. -/
def join (segments : List String) : String :=
  "::".intercalate segments

/-- The written form of a name. -/
def toString (name : QualifiedName) : String :=
  join name.segments

/-- Cuts a text at its separators, from the left: the first piece and those after it. -/
def split : List Char → List Char × List (List Char)
  | [] => ([], [])
  | ':' :: ':' :: rest =>
    let (piece, pieces) := split rest
    ([], piece :: pieces)
  | c :: rest =>
    let (piece, pieces) := split rest
    (c :: piece, pieces)

/-- The name that a text writes. -/
def ofString (text : String) : QualifiedName :=
  let (piece, pieces) := split text.toList
  ofSegments (String.ofList piece) (pieces.map String.ofList)

instance : ToString QualifiedName where
  toString := toString

@[simp] theorem segments_ofSegments (first : String) (rest : List String) :
    (ofSegments first rest).segments = first :: rest := by
  induction rest generalizing first with
  | nil => rfl
  | cons next rest ih =>
    have h := ih next
    simp only [segments, ofSegments, List.cons_append, List.cons.injEq, true_and] at h ⊢
    exact h

theorem segments_ne_nil (name : QualifiedName) : name.segments ≠ [] := by
  simp [segments]

end QualifiedName

end BindingSync
