import BindingSync.Crash
import BindingSync.Database.Fault
import BindingSync.Json.Printer
import BindingSync.Json.Reader

/-!
# Databases as texts

The text of a database is that of its document.  Reading checks the version of the document
before anything else in it.
-/

namespace BindingSync

/-- Why a database cannot be read. -/
inductive DatabaseError where
  /-- The text is no JSON document; the wording says why. -/
  | invalidJson (reason : String)
  | notAnObject
  | unsupportedVersion (version : Json)
  | malformed (fault : EntryFault)
  | duplicate (error : DuplicateError)
  /-- The file cannot be read; the wording says why. -/
  | unreadable (path reason : String)
deriving Repr, Inhabited

namespace DatabaseError

/-- The wording of an error. -/
def message : DatabaseError → String
  | invalidJson reason => s!"Invalid database JSON: {reason}"
  | notAnObject => "Database JSON must be an object"
  | unsupportedVersion version => s!"Unsupported database format version: {version.describe}"
  | malformed fault => s!"Malformed database entry: {fault.message}"
  | duplicate error => error.message
  | unreadable path reason => s!"Cannot read database file '{path}': {reason}"

end DatabaseError

/-- A failure to read a database: one that is reported, or one that ends the program. -/
inductive LoadError where
  | reported (error : DatabaseError)
  | crash (crash : Crash)
deriving Repr, Inhabited

namespace LoadError

/-- The failure to read a document with a fault in its entries. -/
def ofEntry : EntryError → LoadError
  | .fault fault => reported (.malformed fault)
  | .duplicate error => reported (.duplicate error)
  | .noMember => crash .missingMember

/-- The failure to read a text that is no JSON document. -/
def ofSyntax (text : String) (error : Json.SyntaxError) : LoadError :=
  match error.fault with
  | .longInteger => crash .unacceptable
  | _ => reported (.invalidJson (error.message text.toList))

end LoadError

namespace Database

/-- The text of a database. -/
def serialize (db : Database) : String :=
  (Document.ofDatabase db).render

/-- The text of a database, unless one of its integers is too long to be written. -/
def serialize? (db : Database) : Option String :=
  if (Document.ofDatabase db).isWritable then some db.serialize else none

/-- The database of a document. -/
def ofDocument (document : Json) : Except LoadError Database :=
  match document with
  | .object fields =>
    let version := (fields.lookup (.plain "v")).getD .null
    if Document.toText? version = some formatVersion then
      match Document.toDatabase? document with
      | some db => .ok db
      | none => .error (.ofEntry (Document.firstError document))
    else .error (.reported (.unsupportedVersion version))
  | _ => .error (.reported .notAnObject)

/-- The database of a text. -/
def deserialize (text : String) : Except LoadError Database :=
  match Json.parse text with
  | .ok document => ofDocument document
  | .error error => .error (.ofSyntax text error)

end Database

end BindingSync
