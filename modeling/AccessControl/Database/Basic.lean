import AccessControl.Database.Pattern
import AccessControl.Entry
import AccessControl.ServiceError

/-!
# Entries kept in a database

The statements that store and find entries, the parameters that go with them, and what is made of
the rows that come back.  What the database itself does is not described: its replies are given.
-/

namespace AccessControl.Database

variable {α : Type}

/-- A value that goes with a statement. -/
inductive Parameter where
  | text (value : String)
  | flag (value : Bool)
  | texts (values : List String)
  | document (value : Json)
  /-- An identifier; one is drawn at random if none is given. -/
  | identifier (given : Option Uuid)

/-- A statement. -/
inductive Statement where
  /-- Store an entry, replacing one of the same name in the same place. -/
  | save (entry : Entry) (space subpath : String) (document : Json) (policies : List String)
  /-- The addresses of the entries of a space with a policy that matches a pattern. -/
  | search (space : String) (patterns : List String)
  /-- The document of an entry. -/
  | load (locator : Locator)
  /-- The names and documents of the active entries of a type at a subpath. -/
  | list (space subpath : String) (type : ResourceType)

namespace Statement

/-- The text of a statement. -/
def sql : Statement → String
  | .save .. =>
    "INSERT INTO entries ( uuid, space_name, subpath, shortname, resource_type, is_active, " ++
    "owner_shortname, document, query_policies ) VALUES ($1, $2, $3, $4, $5, $6, $7, $8, $9) " ++
    "ON CONFLICT (space_name, subpath, shortname) DO UPDATE SET resource_type = " ++
    "EXCLUDED.resource_type, is_active = EXCLUDED.is_active, owner_shortname = " ++
    "EXCLUDED.owner_shortname, document = EXCLUDED.document, query_policies = " ++
    "EXCLUDED.query_policies, updated_at = now()"
  | .search .. =>
    "SELECT space_name, subpath, shortname, resource_type FROM entries WHERE space_name = $1 " ++
    "AND EXISTS ( SELECT 1 FROM unnest(query_policies) AS policy WHERE policy LIKE ANY($2) ) " ++
    "ORDER BY subpath, shortname"
  | .load _ =>
    "SELECT document FROM entries WHERE space_name = $1 AND subpath = $2 AND shortname = $3 " ++
    "AND resource_type = $4"
  | .list .. =>
    "SELECT shortname, document FROM entries WHERE space_name = $1 AND subpath = $2 " ++
    "AND resource_type = $3 AND is_active ORDER BY shortname"

/-- The parameters of a statement. -/
def parameters : Statement → List Parameter
  | .save entry space subpath document policies =>
    [.identifier entry.uuid, .text space, .text subpath, .text entry.shortname.text,
     .text entry.type.name, .flag entry.isActive, .text entry.owner.text, .document document,
     .texts policies]
  | .search space patterns => [.text space, .texts patterns]
  | .load locator =>
    [.text locator.space, .text locator.subpath, .text locator.shortname,
     .text locator.type.name]
  | .list space subpath type => [.text space, .text subpath, .text type.name]

end Statement

/-- What a database answers to a statement: rows of columns, or a refusal. -/
inductive Reply where
  | rows (rows : List (List Json))
  | refused (text : String)

/-- A database: the replies to come, and the statements that were sent, the last one first.  After
the last reply there are no rows. -/
structure Server where
  replies : List Reply := []
  sent : List Statement := []

/-- Sends a statement, over connections that may have been closed. -/
def send (isOpen : Bool) (statement : Statement) (server : Server) :
    Except DatabaseFault (List (List Json)) × Server :=
  if isOpen then
    let sent := { server with sent := statement :: server.sent }
    match server.replies with
    | [] => (.ok [], sent)
    | .rows rows :: replies => (.ok rows, { sent with replies := replies })
    | .refused text :: replies => (.error (.refused text), { sent with replies := replies })
  else (.error .closed, server)

/-- Sends a statement on an errand and makes an answer of the rows. -/
def ask (isOpen : Bool) (errand : DatabaseErrand) (statement : Statement)
    (answer : List (List Json) → Except ServiceError α) (server : Server) :
    Except ServiceError α × Server :=
  match send isOpen statement server with
  | (.error fault, server) => (.error (.unavailable (.database errand fault)), server)
  | (.ok rows, server) => (answer rows, server)

/-- The address in a row with four columns. -/
def locatorOfRow (space subpath shortname type : String) : Except ServiceError Locator :=
  match (Vocabulary.parse type : Except Invalid ResourceType) with
  | .ok type => .ok ⟨space, subpath, shortname, type⟩
  | .error cause => .error (.corruptRow shortname cause)

/-- The addresses in rows; rows of other columns do not come. -/
def locatorsOfRows : List (List Json) → Except ServiceError (List Locator)
  | [] => .ok []
  | [.str space, .str subpath, .str shortname, .str type] :: rest => do
    let locator ← locatorOfRow space subpath shortname type
    return locator :: (← locatorsOfRows rest)
  | _ :: rest => locatorsOfRows rest

/-- The names and documents in rows; rows of other columns do not come. -/
def listedOfRows : List (List Json) → List ListedEntry
  | [] => []
  | [.str shortname, document] :: rest => ⟨shortname, document⟩ :: listedOfRows rest
  | _ :: rest => listedOfRows rest

/-- The document in the first row. -/
def documentOfRows? : List (List Json) → Option Json
  | (document :: _) :: _ => some document
  | _ => none

/-- Stores an entry below a subpath and answers the policies it is stamped with. -/
def save (isOpen : Bool) (space subpath : String) (document : Json) (server : Server) :
    Except ServiceError (List String) × Server :=
  match Entry.decoder document with
  | .error cause => (.error (.invalidEntry cause), server)
  | .ok entry =>
    let place := Subpath.normalize subpath
    let policies := entry.policies space place
    ask isOpen (.saveEntry space place entry.shortname.text)
      (.save entry space place document policies) (fun _ => .ok policies) server

/-- The entries of a space whose policies match the filters.  Without patterns nothing is sent. -/
def search (isOpen : Bool) (space : String) (filters : List String) (server : Server) :
    Except ServiceError (List Locator) × Server :=
  match filterPatterns filters with
  | [] => (.ok [], server)
  | patterns => ask isOpen .search (.search space patterns) locatorsOfRows server

/-- The decoded entry in the first row. -/
def readEntry (decoder : Decoder α) (locator : Locator) (rows : List (List Json)) :
    Except ServiceError (Option α) :=
  match documentOfRows? rows with
  | none => .ok none
  | some document =>
    match decoder document with
    | .ok value => .ok (some value)
    | .error cause => .error (.corruptEntry locator cause)

/-- The decoded entry at an address, its subpath in whatever spelling. -/
def find (isOpen : Bool) (decoder : Decoder α) (locator : Locator) (server : Server) :
    Except ServiceError (Option α) × Server :=
  ask isOpen .loadEntry (.load locator.normalize) (readEntry decoder locator.normalize) server

/-- The active entries of a type at a subpath. -/
def activeEntries (isOpen : Bool) (space subpath : String) (type : ResourceType)
    (server : Server) : Except ServiceError (List ListedEntry) × Server :=
  ask isOpen (.loadEntries space subpath) (.list space (Subpath.normalize subpath) type)
    (fun rows => .ok (listedOfRows rows)) server

end AccessControl.Database
