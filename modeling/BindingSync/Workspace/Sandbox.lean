import BindingSync.Workspace.Host

/-!
# A host in memory

A sandbox is a file tree and the three standard streams, all of them values.  The tree is a
list of entries by their places, the segments of their names from the root on; a place in
front of another one is a directory.  Running the program in a sandbox is a pure function,
about which statements can be made.
-/

namespace BindingSync

/-- What an entry of a file tree is. -/
inductive FileEntry where
  | file (content : ByteArray)
  | directory
deriving Inhabited

/-- A file tree: entries by their places.  Of two entries for a place the first counts. -/
abbrev FileTree := List (List String × FileEntry)

namespace FileTree

/-- What stands at a place. -/
def statusAt (tree : FileTree) (place : List String) : FileStatus :=
  match tree.lookup place with
  | some (.file _) => .file
  | some .directory => .directory
  | none =>
    if place.isEmpty || tree.any fun entry => place.isPrefixOf entry.1 then .directory
    else .absent

/-- The greatest number of bytes of a name in a directory. -/
def maxNameLength : Nat := 255

/-- The place reached from another one; only directories can be passed through. -/
def walk (tree : FileTree) (place : List String) : List String → Except FileError (List String)
  | [] => .ok place
  | part :: rest =>
    match tree.statusAt place with
    | .directory =>
      if maxNameLength < part.utf8ByteSize then .error .nameTooLong
      else walk tree (if part = ".." then place.dropLast else place ++ [part]) rest
    | .file => .error .notADirectory
    | .absent => .error .notFound

/-- The tree with another entry at a place. -/
def put (tree : FileTree) (place : List String) (entry : FileEntry) : FileTree :=
  match tree with
  | [] => [(place, entry)]
  | (other, old) :: rest =>
    if other = place then (place, entry) :: rest else (other, old) :: put rest place entry

/-- The names of what stands in a directory. -/
def namesIn (tree : FileTree) (place : List String) : List String :=
  (tree.filterMap fun entry =>
    if place.isPrefixOf entry.1 then (entry.1.drop place.length).head? else none).eraseDups

end FileTree

/-- A file tree with a current directory, and the standard streams. -/
structure Sandbox where
  tree : FileTree := []
  /-- The place of the current directory. -/
  current : List String := []
  output : String := ""
  errors : String := ""
  /-- The lines of the input that were not read yet. -/
  input : List String := []
deriving Inhabited

namespace Sandbox

/-- The greatest number of bytes of a path. -/
def maxPathLength : Nat := 4095

/-- The place of a path. -/
def locate (sandbox : Sandbox) (path : Path) : Except FileError (List String) :=
  if maxPathLength < path.toString.utf8ByteSize then .error .nameTooLong
  else sandbox.tree.walk [] ((if path.anchor = "" then sandbox.current else []) ++ path.parts)

/-- What stands at a path. -/
def status (sandbox : Sandbox) (path : Path) : Except FileError FileStatus :=
  match sandbox.locate path with
  | .ok place => .ok (sandbox.tree.statusAt place)
  | .error .nameTooLong => .error .nameTooLong
  | .error _ => .ok .absent

/-- The content of a file. -/
def read (sandbox : Sandbox) (path : Path) : Except FileError ByteArray := do
  let place ← sandbox.locate path
  match sandbox.tree.lookup place, sandbox.tree.statusAt place with
  | some (.file content), _ => .ok content
  | _, .directory => .error .isADirectory
  | _, _ => .error .notFound

/-- The sandbox with a written file. -/
def write (sandbox : Sandbox) (path : Path) (text : String) : Except FileError Sandbox := do
  let place ← sandbox.locate path
  match sandbox.tree.statusAt place with
  | .directory => .error .isADirectory
  | _ => .ok { sandbox with tree := sandbox.tree.put place (.file text.toUTF8) }

/-- The sandbox with a new directory. -/
def makeDirectory (sandbox : Sandbox) (path : Path) : Except FileError Sandbox := do
  let place ← sandbox.locate path
  match sandbox.tree.statusAt place with
  | .absent => .ok { sandbox with tree := sandbox.tree.put place .directory }
  | _ => .error .exists

/-- The names in a directory. -/
def names (sandbox : Sandbox) (path : Path) : List String :=
  match sandbox.locate path with
  | .ok place => sandbox.tree.namesIn place
  | .error _ => []

/-- Puts a question: the answer, what was printed, and the lines that are left. -/
def ask {α : Type} (question remark : String) (answer? : String → Option α) :
    List String → Option α × String × List String
  | [] => (none, question, [])
  | line :: rest =>
    match answer? line with
    | some answer => (some answer, question, rest)
    | none =>
      let (answer, output, rest) := ask question remark answer? rest
      (answer, question ++ remark ++ output, rest)

/-- Keeps the sandbox as it was if a change fails. -/
def change (result : Except FileError Sandbox) : StateM Sandbox (Except FileError Unit) :=
  fun sandbox =>
    match result with
    | .ok changed => (.ok (), changed)
    | .error error => (.error error, sandbox)

instance : Host (StateM Sandbox) where
  currentDirectory sandbox := ({ anchor := "/", parts := sandbox.current }, sandbox)
  status path sandbox := (sandbox.status path, sandbox)
  read path sandbox := (sandbox.read path, sandbox)
  names path sandbox := (sandbox.names path, sandbox)
  write path text sandbox := change (sandbox.write path text) sandbox
  makeDirectory path sandbox := change (sandbox.makeDirectory path) sandbox
  print text sandbox := ((), { sandbox with output := sandbox.output ++ text })
  printError text sandbox := ((), { sandbox with errors := sandbox.errors ++ text })
  ask question remark answer? sandbox :=
    let (answer, output, input) := ask question remark answer? sandbox.input
    (answer, { sandbox with output := sandbox.output ++ output, input })

end Sandbox

end BindingSync
