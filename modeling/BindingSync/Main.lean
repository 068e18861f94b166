import BindingSync.Cli.Run

/-!
# The program

The surroundings of the program are those of the process that runs it: its files, its current
directory and its standard streams.
-/

namespace BindingSync

namespace Machine

/-- The reason of a failed operation by its number and wording. -/
def ofCode (code : UInt32) (details : String) : FileError :=
  match code with
  | 2 => .notFound
  | 17 => .exists
  | 20 => .notADirectory
  | 21 => .isADirectory
  | 36 => .nameTooLong
  | code => .other code.toNat details

/-- The reason of a failed operation. -/
def reason (error : IO.Error) : FileError :=
  match error with
  | .noFileOrDirectory _ code details => ofCode code details
  | .noSuchThing _ code details => ofCode code details
  | .alreadyExists _ code details => ofCode code details
  | .inappropriateType _ code details => ofCode code details
  | .invalidArgument _ code details => ofCode code details
  | .permissionDenied _ code details => ofCode code details
  | .resourceExhausted _ code details => ofCode code details
  | other => .other 0 other.toString

/-- The result of an operation, or the reason why it failed. -/
def attempt {α : Type} (operation : IO α) : IO (Except FileError α) := do
  try
    return .ok (← operation)
  catch error =>
    return .error (reason error)

/-- The number of the reason that a path leads in circles. -/
def circleCode : Nat := 40

/-- What stands at a path. -/
def status (path : Path) : IO (Except FileError FileStatus) := do
  let place := (← IO.currentDir) / path.toString
  match ← attempt place.metadata with
  | .ok data => return .ok (if data.type == .dir then .directory else .file)
  | .error .notFound => return .ok .absent
  | .error .notADirectory => return .ok .absent
  | .error (.other code reason) =>
    return if code = circleCode then .ok .absent else .error (.other code reason)
  | .error error => return .error error

/-- The names in a directory. -/
def names (path : Path) : IO (List String) := do
  let place := (← IO.currentDir) / path.toString
  return (← place.readDir).toList.map fun entry => entry.fileName

/-- A line without its end. -/
def withoutEnd (line : String) : String :=
  if line.toList.getLast? = some '\n' then String.ofList line.toList.dropLast else line

/-- Puts a question until there is an answer or the input ends. -/
partial def ask {α : Type} (question remark : String) (answer? : String → Option α) :
    IO (Option α) := do
  IO.print question
  (← IO.getStdout).flush
  let line ← (← IO.getStdin).getLine
  if line.isEmpty then return none
  match answer? (withoutEnd line) with
  | some answer => return some answer
  | none => do
    IO.print remark
    ask question remark answer?

instance : Host IO where
  currentDirectory := return .ofString (← IO.currentDir).toString
  status := status
  read path := attempt (IO.FS.readBinFile path.toString)
  names := names
  write path text := attempt (IO.FS.writeFile path.toString text)
  makeDirectory path := attempt (IO.FS.createDir path.toString)
  print text := IO.print text
  printError text := IO.eprint text
  ask := ask

end Machine

end BindingSync

open BindingSync in
/-- Runs the program with the arguments of the process. -/
def main (arguments : List String) : IO UInt32 := do
  let ending : Cli.Ending ← Cli.run arguments
  match ending with
  | .exit code => return code.toUInt32
  | .crash _ => do
    IO.eprintln "unexpected failure"
    return 1
