import BindingSync.Sync.Outcome

/-!
# Reconciling signatures

Only what a user wrote into the database by hand can conflict with a declaration; anything
else is replaced without a question.  A signature conflicts if the function has more
parameters than declared, or if a parameter by the user's hand differs in type, or in name
where both have one; destructors are exempt.  A return type conflicts if it is by the user's
hand and differs.  To keep a signature is to keep the whole parameter list; to keep a return
type is to keep nothing else.
-/

namespace BindingSync

open BindingSync.Text

/-- The signature to apply once all conflicts are decided. -/
structure Reconciliation where
  params : List Parameter
  /-- Without a return type the one in the database stays. -/
  returnType : Option DataType
  /-- The conflicts that were asked, in order. -/
  conflicts : List Conflict := []
deriving DecidableEq, Repr, Inhabited

namespace Reconciliation

/-- Two names are there and differ. -/
def namesDiffer : Option WideString → Option WideString → Bool
  | some a, some b => a != b
  | _, _ => false

/-- An existing parameter by the user's hand differs from the incoming one. -/
def paramConflicts (existing incoming : Parameter) : Bool :=
  existing.source = .userDefined &&
    (existing.type != incoming.type || namesDiffer existing.name incoming.name)

/-- An existing parameter list conflicts with the incoming one. -/
def paramsConflict (existing incoming : List Parameter) : Bool :=
  incoming.length < existing.length ||
    (existing.zip incoming).any fun (a, b) => paramConflicts a b

/-- The conflict about the parameters of a function, if there is one. -/
def signatureConflict? (function : FunctionRecord) (incoming : List Parameter)
    (location : String) (isDestructor : Bool) : Option Conflict :=
  if !isDestructor && paramsConflict function.params incoming then
    some { location, kind := .signature, incoming := Parameter.renderList incoming,
           existing := Parameter.renderList function.params }
  else none

/-- The conflict about the return type of a function, if there is one. -/
def returnConflict? (function : FunctionRecord) (incoming : Option DataType)
    (location : String) : Option Conflict :=
  match incoming, function.returnValue with
  | some type, some existing =>
    if existing.source = .userDefined ∧ existing.type ≠ type then
      some { location, kind := .returnType, incoming := type.render,
             existing := existing.type.render }
    else none
  | _, _ => none

/-- Asks a conflict if there is one, and says whether the existing value is kept. -/
def keeps (conflict : Option Conflict) : Dialogue (Except Stop Bool) :=
  match conflict with
  | none => .done (.ok false)
  | some conflict => .ask conflict fun answer => .done <|
    match answer with
    | none => .error (.failed (.unanswered conflict.location))
    | some .abort => .error (.aborted conflict.location)
    | some .keepExisting => .ok true
    | some .useIncoming => .ok false

/-- Decides the signature of a function. -/
def reconcile (function : FunctionRecord) (params : List Parameter)
    (returnType : Option DataType) (location : String) (isDestructor : Bool) :
    Dialogue (Except Stop Reconciliation) :=
  let signature := signatureConflict? function params location isDestructor
  (keeps signature).bind fun
    | .error stop => .done (.error stop)
    | .ok keepsParams =>
      let result := returnConflict? function returnType location
      (keeps result).bind fun
        | .error stop => .done (.error stop)
        | .ok keepsReturn => .done <| .ok {
            params := if keepsParams then function.params else params
            returnType := if keepsReturn then none else returnType
            conflicts := signature.toList ++ result.toList }

end Reconciliation

end BindingSync
