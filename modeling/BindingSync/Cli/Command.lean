import BindingSync.Cli.Arguments
import BindingSync.Cli.Usage
import BindingSync.Sync.Conflict
import BindingSync.Text.Integer

/-!
# Commands

What the program is asked to do.  `check` parses the binding files of a version, `sync` brings
them into a database.  Without a command the program shows its help.
-/

namespace BindingSync.Cli

open BindingSync.Text

/-- Which binding files of which workspace are meant. -/
structure Target where
  directory : String := "."
  /-- The version; without one the workspace says which. -/
  version : Option String := none
  /-- The binding files, some of which may lack their names; without any the workspace says
  which. -/
  files : List (Option String) := []
deriving DecidableEq, Repr, Inhabited

namespace Target

/-- The target with another binding file. -/
def addFile (target : Target) (file : Option String) : Target :=
  { target with files := target.files ++ [file] }

end Target

/-- Who decides conflicts. -/
inductive ConflictPolicy where
  /-- The person at the terminal. -/
  | ask
  /-- Every conflict is decided alike. -/
  | fixed (decision : Decision)
deriving DecidableEq, Repr, Inhabited

namespace ConflictPolicy

/-- The policies by the words for them, in the order of the words. -/
def all : List (String × ConflictPolicy) :=
  [("abort", fixed .abort), ("ask", ask), ("existing", fixed .keepExisting),
    ("incoming", fixed .useIncoming)]

end ConflictPolicy

/-- What a synchronization is asked for. -/
structure SyncOptions where
  target : Target := {}
  /-- The path of the database. -/
  database : String := ""
  /-- The platform; without one the workspace says which. -/
  platform : Option String := none
  /-- Who decides conflicts; nobody does if the flag for it has no value. -/
  onConflict : Option ConflictPolicy := some .ask
  /-- The image base of a database that has to be created, unless the flag for it has no
  value. -/
  imageBase : Option Int := some 0x400000
deriving DecidableEq, Repr, Inhabited

/-- What the program is asked to do. -/
inductive Command where
  | check (target : Target)
  | sync (options : SyncOptions)
deriving DecidableEq, Repr, Inhabited

namespace Command

/-- The flag that asks for help. -/
def helpFlag : Flag := ⟨["-h", "--help"], false⟩

/-- A flag with a value. -/
def valueFlag (name : String) : Flag := ⟨[name], true⟩

/-- The flags of a target. -/
def targetFlags : List Flag :=
  [valueFlag "--version", valueFlag "--file"]

/-- Gives a target the value of one of its flags. -/
def setTarget (target : Target) (flag : Flag) (value : Option String) : Target :=
  if flag = valueFlag "--version" then { target with version := value }
  else target.addFile value

/-- The wording of a word that is none of those that there are. -/
def invalidChoice (title word : String) (known : List String) : String :=
  let known := ", ".intercalate (known.map fun (name : String) => quoted name)
  s!"argument {title}: invalid choice: {quoted word} (choose from {known})"

/-- The form of `check`. -/
def checkForm : Form Target where
  program := "bromasync check"
  flags := helpFlag :: targetFlags
  slots := [.optional "directory"]
  onFlag target flag value :=
    if flag = helpFlag then .error (.help Usage.check) else .ok (setTarget target flag value)
  onSlot target _ words := .ok { target with directory := words.headD "." }

/-- The name of the form of `sync` in messages. -/
def syncProgram : String := "bromasync sync"

/-- The policy of a word. -/
def policyOf (word : String) : Except Exit ConflictPolicy :=
  match ConflictPolicy.all.lookup word with
  | some policy => .ok policy
  | none =>
    let known := ConflictPolicy.all.map Prod.fst
    .error (.usage syncProgram (invalidChoice "--on-conflict" word known))

/-- The image base of a word. -/
def imageBaseOf (word : String) : Except Exit Int :=
  match Integer.ofString? word with
  | some imageBase => .ok imageBase
  | none =>
    .error (.usage syncProgram s!"argument --image-base: invalid <lambda> value: {quoted word}")

/-- Gives the options the value of one of their flags. -/
def setOption (options : SyncOptions) (flag : Flag) (value : Option String) :
    Except Exit SyncOptions :=
  match flag.names with
  | ["--platform"] => .ok { options with platform := value }
  | ["--on-conflict"] => return { options with onConflict := ← value.mapM policyOf }
  | ["--image-base"] => return { options with imageBase := ← value.mapM imageBaseOf }
  | _ => .ok { options with target := setTarget options.target flag value }

/-- The form of `sync`. -/
def syncForm : Form SyncOptions where
  program := syncProgram
  flags := helpFlag :: targetFlags ++
    [valueFlag "--platform", valueFlag "--on-conflict", valueFlag "--image-base"]
  slots := [.one "database", .optional "directory"]
  onFlag options flag value :=
    if flag = helpFlag then .error (.help Usage.sync) else setOption options flag value
  onSlot options slot words :=
    match slot with
    | .optional _ =>
      .ok { options with target := { options.target with directory := words.headD "." } }
    | _ => .ok { options with database := words.headD "" }

/-- A command with the words for which it has no place. -/
abbrev Parsed := Option (Command × List String)

/-- The name of the main form in messages. -/
def mainProgram : String := "bromasync"

/-- The command of a name with its arguments. -/
def ofName (name : String) (words : List String) : Except Exit (Command × List String) :=
  match name with
  | "check" => do
    let (target, extras) ← checkForm.parse {} words
    return (.check target, extras)
  | "sync" => do
    let (options, extras) ← syncForm.parse {} words
    return (.sync options, extras)
  | name => .error (.usage mainProgram (invalidChoice "COMMAND" name ["check", "sync"]))

/-- The form of the whole command line. -/
def mainForm : Form Parsed where
  program := mainProgram
  flags := [helpFlag]
  slots := [.remainder "COMMAND"]
  onFlag _ _ _ := .error (.help Usage.program)
  onSlot parsed _ words :=
    match words with
    | name :: rest => do return some (← ofName name rest)
    | [] => .ok parsed

/-- The command of a command line. -/
def ofArguments (words : List String) : Except Exit Command := do
  let (parsed, extras) ← mainForm.parse none words
  let extras := extras ++ (parsed.map Prod.snd).getD []
  if !extras.isEmpty then
    let text := " ".intercalate extras
    mainForm.fail s!"unrecognized arguments: {text}"
  match parsed with
  | none => .error (.help Usage.program)
  | some (command, _) => .ok command

end Command

end BindingSync.Cli
