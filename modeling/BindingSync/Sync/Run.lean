import BindingSync.Sync.Allocation
import BindingSync.Sync.Reconciliation
import BindingSync.Sync.Resolution

/-!
# Synchronizing binding files into a database

Files, classes and functions are taken strictly in order, and every change is made as soon as
it is known; later functions may rely on namespaces and types that earlier ones created.  For
every function with an offset on the target platform a run

1. finds the function at the address, or creates it inside its class;
2. resolves the return type and builds the parameter list: `this` unless the function is
   static, `ret` for a structure that is returned by value, then the declared parameters;
3. reconciles the signature with what the user wrote into the database by hand;
4. places the parameters where the calling convention asks for it;
5. writes the signature back.
-/

namespace BindingSync

open BindingSync.Binding
open BindingSync.Text

/-- A part of a run: it works on the progress made so far and may ask for decisions. -/
def Sync (α : Type) : Type := Progress → Dialogue (Outcome α)

namespace Sync

instance : Monad Sync where
  pure value := fun progress => .done (.done value progress)
  bind part next := fun progress => (part progress).bind fun
    | .done value progress => next value progress
    | .stopped cause progress => .done (.stopped cause progress)

/-- The database as it stands. -/
def database : Sync Database := fun progress => .done (.done progress.db progress)

/-- Replaces the database. -/
def setDatabase (db : Database) : Sync Unit := fun progress =>
  .done (.done () { progress with db })

/-- Notes a function that was created. -/
def noteAdded (location : String) : Sync Unit := fun progress =>
  .done (.done () { progress with added := progress.added ++ [location] })

/-- Notes a function whose signature changed. -/
def noteUpdated (location : String) : Sync Unit := fun progress =>
  .done (.done () { progress with updated := progress.updated ++ [location] })

/-- Raises warnings. -/
def warn (warnings : List Warning) : Sync Unit := fun progress =>
  .done (.done () { progress with warnings := progress.warnings ++ warnings })

/-- Ends the run. -/
def stop {α : Type} (cause : Stop) : Sync α := fun progress =>
  .done (.stopped cause progress)

/-- Holds a dialogue that knows nothing of the progress. -/
def consult {α : Type} (dialogue : Dialogue (Except Stop α)) : Sync α := fun progress =>
  dialogue.bind fun
    | .ok value => .done (.done value progress)
    | .error cause => .done (.stopped cause progress)

/-- Resolves a type expression in the database. -/
def resolve (type : TypeExpr) : Sync DataType := do
  match Resolution.resolve (← database) type with
  | .error error => stop (.failed error)
  | .ok resolution => do
    setDatabase resolution.db
    warn resolution.warnings
    return resolution.type

/-- The type of the implicit `this` of a class. -/
def resolveThis (name : QualifiedName) : Sync DataType :=
  resolve (.pointerTo name)

/-- The namespaces of a path below one that is there; the last one is created as a class. -/
def namespacesBelow (db : Database) (parent : List WideString) : List WideString → Database
  | [] => db
  | segment :: rest =>
    let path := parent ++ [segment]
    match db.namespaceAt? path with
    | some _ => namespacesBelow db path rest
    | none => namespacesBelow (db.addNamespace ⟨path, rest.isEmpty⟩) path rest

/-- Looks up or creates the namespaces of a path. -/
def ensureNamespace (path : List WideString) : Sync Unit := do
  if path.isEmpty then stop (.failed .emptyClassName)
  else setDatabase (namespacesBelow (← database) [] path)

/-- The address of an offset; without an image base there is none. -/
def addressOf (offset : Int) : Sync Int := do
  match (← database).imageBase with
  | some imageBase => return imageBase + offset
  | none => stop (.crash .wrongKind)

/-- The path of the namespace of a class. -/
def namespaceOf (cls : ClassDecl) : List WideString :=
  cls.name.segments.map .plain

/-- The function at an address, and whether it had to be created for the declaration. -/
def locate (cls : ClassDecl) (decl : FunctionDecl) (address : Int) :
    Sync (FunctionRecord × Bool) := do
  let db ← database
  match db.functionAt? address with
  | some function => return (function, false)
  | none =>
    match db.createFunction? address decl.name with
    | none => stop (.failed (.cannotCreate address (cls.qualify decl)))
    | some db => do
      setDatabase db
      ensureNamespace (namespaceOf cls)
      let function : FunctionRecord :=
        { address, name := decl.name, namespacePath := some (namespaceOf cls) }
      setDatabase ((← database).putFunction function)
      return (function, true)

/-- The declared return type, resolved; destructors have none. -/
def returnTypeOf (decl : FunctionDecl) : Sync (Option DataType) :=
  match decl.returnType with
  | none => return none
  | some type => return some (← resolve type)

/-- The implicit `this` parameter, unless the function is static. -/
def thisParams (cls : ClassDecl) (decl : FunctionDecl) : Sync (List Parameter) :=
  if decl.hasThis then do
    return [{ name := some "this", type := ← resolveThis cls.name, source := .analysis }]
  else return []

/-- The implicit `ret` parameter of a structure that is returned by value. -/
def retParams (returnType : Option DataType) : List Parameter :=
  match returnType with
  | some type => if type.isStruct then [{ name := some "ret", type, source := .analysis }] else []
  | none => []

/-- The declared parameters, resolved one after the other. -/
def declaredParams : List ParamDecl → Sync (List Parameter)
  | [] => return []
  | param :: rest => do
    let type ← resolve param.type
    return { name := param.name, type, source := .analysis } :: (← declaredParams rest)

/-- Places the parameters where the convention asks for it. -/
def placed (convention : Option CallingConvention) (params : List Parameter)
    (location : String) : Sync (List Parameter × StorageMode) :=
  if Allocation.isNeeded convention params then
    let (warnings, result) := Allocation.place convention params location
    do
      warn warnings
      match result with
      | .ok params => return (params, .custom)
      | .error error => stop (.failed error)
  else return (params, .dynamic)

/-- Notes what became of a function. -/
def note (isNew : Bool) (before after : FunctionRecord) (location : String) : Sync Unit :=
  if isNew then noteAdded location
  else if after ≠ before then noteUpdated location
  else return ()

/-- Synchronizes a declaration that has an offset. -/
def addressed (platform : Platform) (cls : ClassDecl) (decl : FunctionDecl) (offset : Int) :
    Sync Unit := do
  let location := cls.qualify decl
  let address ← addressOf offset
  let (function, isNew) ← locate cls decl address
  let convention :=
    CallingConvention.select platform (cls.isLinkedOn platform.tag) decl.dispatch
  let returnType ← returnTypeOf decl
  let this ← thisParams cls decl
  let declared ← declaredParams decl.params
  let params := this ++ retParams returnType ++ declared
  let agreed ← consult
    (Reconciliation.reconcile function params returnType location decl.isDestructor)
  let (params, mode) ← placed convention agreed.params location
  let after := function.withSignature (convention.map (·.databaseName)) agreed.returnType params
    mode .analysis
  setDatabase ((← database).putFunction after)
  note isNew function after location

/-- Synchronizes a declaration. -/
def declaration (platform : Platform) (cls : ClassDecl) (decl : FunctionDecl) : Sync Unit :=
  match decl.offsetOn? platform.tag with
  | none => return ()
  | some offset => addressed platform cls decl offset

/-- Does one thing after the other. -/
def each {α : Type} (part : α → Sync Unit) : List α → Sync Unit
  | [] => return ()
  | a :: rest => do
    part a
    each part rest

/-- Synchronizes the functions of a class. -/
def classDecl (platform : Platform) (cls : ClassDecl) : Sync Unit :=
  each (declaration platform cls) cls.functions

/-- A binding file: a label for messages, and its text if it can be read. -/
structure Source where
  label : String
  text : Except Stop String
deriving Inhabited

/-- Synchronizes a binding file. -/
def source (platform : Platform) (source : Source) : Sync Unit :=
  match source.text with
  | .error cause => stop cause
  | .ok text =>
    match parse text with
    | .error error => stop (.failed (.unparsable source.label error))
    | .ok classes => each (classDecl platform) classes

/-- Synchronizes binding files in order. -/
def sources (platform : Platform) (files : List Source) : Sync Unit :=
  each (source platform) files

end Sync

/-- Synchronizes binding files into a database. -/
def synchronize (platform : Platform) (files : List Sync.Source) (db : Database) :
    Dialogue (Outcome Unit) :=
  Sync.sources platform files { db }

end BindingSync
