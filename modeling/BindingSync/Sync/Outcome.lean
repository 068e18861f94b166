import BindingSync.Binding.ClassBlock
import BindingSync.Crash
import BindingSync.Database.Basic
import BindingSync.Json.Basic
import BindingSync.Sync.Conflict
import BindingSync.Sync.Platform

/-!
# Outcomes of a synchronization

A run reports the functions that it added and updated and the warnings that it raised.  It
may end early: because a conflict was answered with an abort, or because of an error.  What
was done before stays done, so the progress made is part of every outcome.
-/

namespace BindingSync

open BindingSync.Text
open BindingSync.Binding

/-- Something that may need attention in the database. -/
inductive Warning where
  /-- A type that was not known was created, with a guess at what it is. -/
  | newType (path : TypePath) (kind : TypeKind)
  /-- A parameter of a structure of unknown length stands on the stack. -/
  | undefinedParameter (location : String) (param : Option WideString)
deriving DecidableEq, Repr, Inhabited

namespace Warning

/-- The wording of a warning. -/
def message : Warning → String
  | newType path .struct => s!"Created new type {path.toString}, assumed it's a struct"
  | newType path .enum => s!"Created new type {path.toString}, assumed it's an enum"
  | undefinedParameter location param =>
    let name := (param.map WideString.toString).getD "None"
    s!"Function {location} has parameter {name} of an undefined struct type " ++
      "- its stack offsets need to be fixed manually"

end Warning

/-- Why a synchronization cannot go on. -/
inductive SyncError where
  | unknownPlatform (text : WideString)
  /-- A value stands where a platform belongs. -/
  | notAPlatform (value : Json)
  | unparsable (label : String) (error : ParseError)
  /-- A binding file cannot be read; the wording says why. -/
  | unreadable (path reason : String)
  | cannotCreate (address : Int) (location : String)
  | namelessType (type : TypeExpr)
  | emptyClassName
  /-- A floating-point parameter has a width for which there is no register. -/
  | floatWidth (index : Int) (type : DataType) (location : String)
  /-- Nobody answered a conflict. -/
  | unanswered (location : String)
deriving Repr, Inhabited

namespace SyncError

/-- The wording of an error. -/
def message : SyncError → String
  | unknownPlatform text =>
    let known := ", ".intercalate (Platform.all.map Platform.tag)
    s!"Unknown platform {quoted text} (expected one of: {known})"
  | notAPlatform value => s!"Unknown platform {value.describe}"
  | unparsable label error => s!"Parse error in '{label}': {error.message}"
  | unreadable path reason => s!"Cannot read binding file '{path}': {reason}"
  | cannotCreate address location =>
    s!"Unable to create a function at address {hexOfInt address} for {location}"
  | namelessType type => s!"Type expression {quoted type.render} has no name"
  | emptyClassName => "Class declaration has an empty name"
  | floatWidth index type location =>
    s!"Parameter {index} of {location} has type {type.render}, which is floating-point " ++
      "but has no known register location"
  | unanswered location => s!"No scripted decision left for conflict in {location}"

end SyncError

/-- What ends a synchronization early. -/
inductive Stop where
  | failed (error : SyncError)
  /-- A conflict was answered with an abort. -/
  | aborted (location : String)
  | crash (crash : Crash)
deriving Repr, Inhabited

namespace Stop

/-- The wording of an abort. -/
def abortMessage (location : String) : String :=
  s!"Synchronization aborted at {location}"

end Stop

/-- What a run has done so far. -/
structure Progress where
  db : Database
  /-- The qualified names of the functions that were created. -/
  added : List String := []
  /-- The qualified names of the functions whose signature changed. -/
  updated : List String := []
  warnings : List Warning := []
deriving DecidableEq, Repr, Inhabited

/-- How a part of a run ends. -/
inductive Outcome (α : Type) where
  | done (value : α) (progress : Progress)
  | stopped (cause : Stop) (progress : Progress)
deriving Repr, Inhabited

namespace Outcome

/-- The progress made, however the run ended. -/
def progress {α : Type} : Outcome α → Progress
  | done _ progress => progress
  | stopped _ progress => progress

end Outcome

end BindingSync
