import BindingSync.Crash
import BindingSync.Text.Blank
import BindingSync.Text.Quoted
import BindingSync.Workspace.Path

/-!
# Hosts

The program reads and writes files and talks to a person.  What it needs of its surroundings
is a `Host`, given by the effects of a monad; the program itself is written for every host.
-/

namespace BindingSync

open BindingSync.Text

/-- Why a file operation fails. -/
inductive FileError where
  | notFound | exists | notADirectory | isADirectory | nameTooLong
  /-- Any other reason, by its number and wording. -/
  | other (code : Nat) (reason : String)
deriving DecidableEq, Repr, Inhabited

namespace FileError

/-- The number and the wording of a reason. -/
def reason : FileError → Nat × String
  | notFound => (2, "No such file or directory")
  | «exists» => (17, "File exists")
  | notADirectory => (20, "Not a directory")
  | isADirectory => (21, "Is a directory")
  | nameTooLong => (36, "File name too long")
  | other code reason => (code, reason)

/-- The wording of a failure at a path. -/
def describe (error : FileError) (path : Path) : String :=
  s!"[Errno {error.reason.1}] {error.reason.2}: {quoted path.toString}"

/-- How the failure ends the program where nothing handles it. -/
def crash : FileError → Crash
  | «exists» => .fileExists
  | isADirectory => .isADirectory
  | notADirectory => .notADirectory
  | _ => .fileFailure

end FileError

/-- What stands at a path. -/
inductive FileStatus where
  | absent | file | directory
deriving DecidableEq, Repr, Inhabited

/-- The surroundings of the program. -/
class Host (m : Type → Type) where
  /-- The path that relative paths are seen from. -/
  currentDirectory : m Path
  /-- What stands at a path; what cannot be reached is absent. -/
  status : Path → m (Except FileError FileStatus)
  /-- The content of a file. -/
  read : Path → m (Except FileError ByteArray)
  /-- The names in a directory, in any order. -/
  names : Path → m (List String)
  /-- Gives a file a new content, and creates it if it is not there. -/
  write : Path → String → m (Except FileError Unit)
  /-- Creates a directory in one that is there. -/
  makeDirectory : Path → m (Except FileError Unit)
  /-- Writes to the standard output. -/
  print : String → m Unit
  /-- Writes to the standard error. -/
  printError : String → m Unit
  /-- Puts a question until the next line of the standard input is an answer to it.  The remark
  is printed behind a line that is none.  Without another line there is no answer. -/
  ask {α : Type} (question remark : String) (answer? : String → Option α) : m (Option α)

/-- Why a text file cannot be read. -/
inductive ReadError where
  | file (error : FileError)
  /-- The content is no text, or no file can have the path. -/
  | crash (crash : Crash)
deriving DecidableEq, Repr, Inhabited

/-- The text of a content, with unified line ends. -/
def decodeText (content : ByteArray) : Option String :=
  (String.fromUTF8? content).map fun text => String.ofList (unifyLineEnds text.toList)

namespace Host

variable {m : Type → Type} [Monad m] [Host m]

/-- The surroundings do not change if a computation may also end early. -/
instance {ε : Type} : Host (ExceptT ε m) where
  currentDirectory := ExceptT.lift currentDirectory
  status path := ExceptT.lift (status path)
  read path := ExceptT.lift (read path)
  names path := ExceptT.lift (names path)
  write path text := ExceptT.lift (write path text)
  makeDirectory path := ExceptT.lift (makeDirectory path)
  print text := ExceptT.lift (print text)
  printError text := ExceptT.lift (printError text)
  ask question remark answer? := ExceptT.lift (ask question remark answer?)

/-- What stands at a path; nothing does if no file can have it. -/
def statusAt (path : Path) : m (Except Crash FileStatus) := do
  if path.isUsable then return (← status path).mapError FileError.crash
  else return .ok .absent

/-- Something stands at a path. -/
def exists? (path : Path) : m (Except Crash Bool) := do
  return (← statusAt path).map (· != .absent)

/-- A directory stands at a path. -/
def isDirectory (path : Path) : m (Except Crash Bool) := do
  return (← statusAt path).map (· = .directory)

/-- A file stands at a path. -/
def isFile (path : Path) : m (Except Crash Bool) := do
  return (← statusAt path).map (· = .file)

/-- The text of a file. -/
def readText (path : Path) : m (Except ReadError String) := do
  if !path.isUsable then return .error (.crash .unacceptable)
  match ← read path with
  | .error error => return .error (.file error)
  | .ok content =>
    match decodeText content with
    | some text => return .ok text
    | none => return .error (.crash .undecodable)

/-- Writes a line to the standard output. -/
def printLine (text : String) : m Unit :=
  print (text ++ "\n")

/-- Creates a directory in one that is there; it is all right if it is there already. -/
def ensureDirectory (path : Path) : m (Except FileError Unit) := do
  match ← makeDirectory path with
  | .error .notFound => return .error .notFound
  | .error error => do
    match ← isDirectory path with
    | .ok true => return .ok ()
    | _ => return .error error
  | .ok () => return .ok ()

/-- Creates a directory and those around it, as far as the number of steps goes. -/
def ensureDirectories : Nat → Path → m (Except FileError Unit)
  | 0, path => ensureDirectory path
  | steps + 1, path => do
    match ← ensureDirectory path with
    | .error .notFound => do
      if path.parts.isEmpty then return .error .notFound
      match ← ensureDirectories steps path.parent with
      | .error error => return .error error
      | .ok () => ensureDirectory path
    | result => return result

/-- Creates the directories around a path. -/
def ensureParent (path : Path) : m (Except Crash Unit) := do
  if !path.parent.isUsable then return .error .unacceptable
  return (← ensureDirectories path.parts.length path.parent).mapError FileError.crash

/-- Gives a file a new content. -/
def writeText (path : Path) (text : String) : m (Except Crash Unit) := do
  if !path.isUsable then return .error .unacceptable
  return (← write path text).mapError FileError.crash

end Host

end BindingSync
