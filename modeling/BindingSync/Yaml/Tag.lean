/-!
# Tags

A tag says what the content of a node stands for.  The tags of the core schema have a common
beginning; any other tag is known by its name only.
-/

namespace BindingSync.Yaml

/-- What the content of a node stands for. -/
inductive Tag where
  | null | bool | int | float | binary | timestamp | text
  | sequence | orderedMapping | pairs | mapping | set
  /-- The key of pairs that are merged into a mapping. -/
  | merge
  /-- The key of the value that stands for a mapping as a whole. -/
  | defaultValue
  | other (name : String)
deriving DecidableEq, Repr, Inhabited

namespace Tag

/-- The common beginning of the tags of the core schema. -/
def coreBeginning : String := "tag:yaml.org,2002:"

/-- The tags of the core schema by the rest of their names. -/
def core : List (String × Tag) :=
  [("null", null), ("bool", bool), ("int", int), ("float", float), ("binary", binary),
    ("timestamp", timestamp), ("omap", orderedMapping), ("pairs", pairs), ("set", set),
    ("str", text), ("seq", sequence), ("map", mapping), ("merge", merge), ("value", defaultValue)]

/-- The tag of a full name. -/
def ofString (name : String) : Tag :=
  ((core.map fun (rest, tag) => (coreBeginning ++ rest, tag)).lookup name).getD (other name)

end Tag

/-- The beginnings of tags by the handles that are short for them. -/
abbrev TagHandles := List (String × String)

namespace TagHandles

/-- The handles that every document has, unless it gives them another meaning. -/
def standard : TagHandles :=
  [("!", "!"), ("!!", Tag.coreBeginning)]

/-- The full name of a tag with a handle. -/
def expand? (handles : TagHandles) (handle rest : String) : Option String :=
  (handles.lookup handle).map (· ++ rest)

end TagHandles

end BindingSync.Yaml
