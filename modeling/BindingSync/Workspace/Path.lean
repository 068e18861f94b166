import BindingSync.Text.WideString

/-!
# Paths

A path is an anchor, which is empty for relative paths, and a list of parts.  Empty parts and
parts that are a single point are not kept; a part of two points is, because what it means
depends on the file tree.
-/

namespace BindingSync

/-- A path in a file tree. -/
structure Path where
  anchor : String := ""
  parts : List String := []
deriving DecidableEq, Repr, Inhabited

namespace Path

/-- The parts of a text between slashes. -/
def splitParts : List Char → List Char × List (List Char)
  | [] => ([], [])
  | c :: rest =>
    let (part, parts) := splitParts rest
    if c = '/' then ([], part :: parts) else (c :: part, parts)

/-- The anchor that a text starts with: exactly two slashes are an anchor of their own. -/
def anchorOf : List Char → String
  | '/' :: '/' :: '/' :: _ => "/"
  | '/' :: '/' :: _ => "//"
  | '/' :: _ => "/"
  | _ => ""

/-- The path that a text writes. -/
def ofString (text : String) : Path where
  anchor := anchorOf text.toList
  parts :=
    let (part, parts) := splitParts text.toList
    ((part :: parts).map String.ofList).filter fun part => part != "" && part != "."

/-- The name that a string has in paths.  No file has half of a surrogate pair in its name, and none
has the character of number zero, which stands for halves. -/
def nameOf : Text.WideString → String
  | .plain text => text
  | .broken points _ => String.ofList (points.map fun point =>
      match point with
      | .char c => c
      | .half _ => '\x00')

/-- The written form of a path. -/
def toString (path : Path) : String :=
  if path.anchor = "" ∧ path.parts = [] then "." else path.anchor ++ "/".intercalate path.parts

instance : ToString Path where
  toString := toString

/-- A path seen from another one; an anchored path stands for itself. -/
def join (base path : Path) : Path :=
  if path.anchor = "" then { base with parts := base.parts ++ path.parts } else path

/-- A name inside a path. -/
def child (base : Path) (name : String) : Path :=
  base.join (ofString name)

/-- The last part. -/
def name (path : Path) : String :=
  path.parts.getLastD ""

/-- A file can have this path: no part holds the character of number zero. -/
def isUsable (path : Path) : Bool :=
  path.parts.all fun part => !part.toList.contains '\x00'

/-- The path without its last part. -/
def parent (path : Path) : Path :=
  { path with parts := path.parts.dropLast }

/-- An anchored path without parts of two points: each takes away the part before it.  Two
slashes at the front are as good as one. -/
def normalized (path : Path) : Path where
  anchor := "/"
  parts := path.parts.foldl (fun parts part =>
    if part = ".." then parts.dropLast else parts ++ [part]) []

end Path

end BindingSync
