import BindingSync.Sync.Outcome

/-!
# Explicit parameter storage

Two calling conventions need their parameters placed one by one when floating-point numbers or
structures are passed by value:

* of the first five parameters, a floating-point one goes to the `XMM` register of its index;
* the first parameter goes to `ECX`;
* under `optcall` the second one goes to `EDX`, unless it is a structure;
* everything else goes to the stack.

The stack offset advances by the length of the parameter with the same index in a second list,
in which the structures come behind all other parameters.  This is not always the length of
the parameter that was just placed.
-/

namespace BindingSync.Allocation

/-- This many parameters may be passed in floating-point registers. -/
def floatRegisters : Nat := 5

/-- The parameters have to be placed one by one. -/
def isNeeded (convention : Option CallingConvention) (params : List Parameter) : Bool :=
  convention.any (·.needsExplicitStorage) &&
    params.any fun param => param.type.isStruct || param.type.isFloat

/-- The floating-point register for a parameter. -/
def floatRegister (index : Int) (type : DataType) (location : String) :
    Except SyncError String :=
  if type.length = 4 then .ok s!"XMM{index}_Da"
  else if type.length = 8 then .ok s!"XMM{index}_Qa"
  else .error (.floatWidth index type location)

/-- The parameters with the structures behind all others. -/
def structsLast (params : List Parameter) : List Parameter :=
  params.filter (!·.type.isStruct) ++ params.filter (·.type.isStruct)

/-- The register for the parameter of an index, or none if it goes to the stack. -/
def register? (convention : Option CallingConvention) (location : String) (index : Nat)
    (type : DataType) : Except SyncError (Option String) :=
  if index < floatRegisters ∧ type.isFloat then (floatRegister index type location).map some
  else if index = 0 then .ok (some "ECX")
  else if convention = some .optcall ∧ index = 1 ∧ !type.isStruct then .ok (some "EDX")
  else .ok none

/-- Places the parameters from an index and a stack offset on.  Each comes with the one that
advances the offset.  The warnings are those raised before an error, if there is one. -/
def placeFrom (convention : Option CallingConvention) (location : String) (index : Nat)
    (offset : Int) : List (Parameter × Parameter) →
    List Warning × Except SyncError (List Parameter)
  | [] => ([], .ok [])
  | (param, advance) :: rest =>
    match register? convention location index param.type with
    | .error error => ([], .error error)
    | .ok (some name) =>
      let placed := { param with storage := some (.register name), source := .analysis }
      let (warnings, result) := placeFrom convention location (index + 1) offset rest
      (warnings, result.map (placed :: ·))
    | .ok none =>
      let storage := Storage.stack offset param.type.length
      let placed := { param with storage := some storage, source := .analysis }
      let warning := if param.type.isUndefined then
        [Warning.undefinedParameter location param.name] else []
      let (warnings, result) :=
        placeFrom convention location (index + 1) (offset + advance.type.length) rest
      (warning ++ warnings, result.map (placed :: ·))

/-- Places all parameters of a function. -/
def place (convention : Option CallingConvention) (params : List Parameter) (location : String) :
    List Warning × Except SyncError (List Parameter) :=
  placeFrom convention location 0 0 (params.zip (structsLast params))

end BindingSync.Allocation
