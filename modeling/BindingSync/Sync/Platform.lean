import BindingSync.Binding.Declaration
import BindingSync.Text.WideString

/-!
# Platforms and calling conventions

A binding file carries addresses for several platforms.  On one of them the calling convention
follows from how a function is dispatched and whether its class is linked; on the other one
the database works it out for itself.
-/

namespace BindingSync

open BindingSync.Binding (Dispatch)
open BindingSync.Text

/-- A target platform. -/
inductive Platform where
  | windows | mac
deriving DecidableEq, Repr, Inhabited

namespace Platform

/-- All platforms. -/
def all : List Platform := [windows, mac]

/-- The tag of address clauses and link attributes. -/
def tag : Platform → String
  | windows => "win"
  | mac => "mac"

/-- The name in lower case. -/
def name : Platform → String
  | windows => "windows"
  | mac => "mac"

/-- The calling convention has to be chosen on this platform. -/
def isConventionSensitive : Platform → Bool
  | windows => true
  | mac => false

/-- The platform of a tag, or of a name in any case.  The names are ASCII, and no other letter
has an ASCII letter of them as its lower case. -/
def ofString? (text : WideString) : Option Platform :=
  let shown := text.toString
  all.find? fun platform => shown = platform.tag || shown.toLower = platform.name

end Platform

/-- A calling convention. -/
inductive CallingConvention where
  | cdecl | thiscall | membercall | fastcall | optcall
deriving DecidableEq, Repr, Inhabited

namespace CallingConvention

/-- The name of a convention. -/
def name : CallingConvention → String
  | cdecl => "cdecl"
  | thiscall => "thiscall"
  | membercall => "membercall"
  | fastcall => "fastcall"
  | optcall => "optcall"

/-- The name under which a database stores the convention.  Two conventions have no name of
their own there: they are stored under a related one, with explicit parameter storage. -/
def databaseName : CallingConvention → String
  | cdecl => "__cdecl"
  | thiscall => "__thiscall"
  | membercall => "__thiscall"
  | fastcall => "__fastcall"
  | optcall => "__fastcall"

/-- Parameters may have to be placed one by one. -/
def needsExplicitStorage : CallingConvention → Bool
  | membercall => true
  | optcall => true
  | _ => false

/-- The convention of a function, where it has to be chosen. -/
def select (platform : Platform) (isLinked : Bool) (dispatch : Dispatch) :
    Option CallingConvention :=
  if platform.isConventionSensitive then
    match dispatch with
    | .virtual => some thiscall
    | .callback => some thiscall
    | .static => some (if isLinked then cdecl else optcall)
    | _ => some (if isLinked then thiscall else membercall)
  else none

end CallingConvention

end BindingSync
