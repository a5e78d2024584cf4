import QueryFrame.Query
import QueryFrame.Registry.Standard
import QueryFrame.Wire.Config
import QueryFrame.Wire.Value

/-!
# Queries over the wire

A server behind a socket, how a connection to it is made, and how a statement is run: the server
prepares it, the types of its columns are resolved, and only then it is executed and its rows are
scanned. All that the server is sent is on record.
-/

namespace QueryFrame.Wire

/-- How a server lets users in. -/
inductive Admission where
  | trust
  /-- A password is asked for, and any is accepted. -/
  | password
  | reject
  deriving DecidableEq, Repr

/-- A server that listens on a socket in a directory, which is known by its absolute path. -/
structure Server where
  directory : String
  port : Nat := 5432
  admission : Admission := .trust
  deriving DecidableEq, Repr

/-- What a server is told while a connection is made. -/
structure Greeting where
  /-- The user and the database, if the server is reached. -/
  startup : Option (String × String) := none
  password : Option String := none
  deriving DecidableEq, Repr

/-- Whether a text can be sent: the wire ends texts with the null character. -/
def isSendable (text : String) : Bool := !text.toList.contains '\x00'

/-- The names on a path. A doubled slash, a slash at the end and a single dot lead nowhere else. -/
def pathNames (path : String) : List String :=
  (path.splitOn "/").filter fun name => name ≠ "" ∧ name ≠ "."

/-- Whether a connection with the given parameters reaches the server. -/
def Server.isAt (server : Server) (c : Config) : Bool :=
  c.isSocket && pathNames c.host == pathNames server.directory && c.port == server.port

/-- Makes a connection: what the server is told, and whether it lets the user in. -/
def connect (server : Server) (c : Config) : Greeting × Except QueryError Unit :=
  let refused (greeting : Greeting) (reason : String) : Greeting × Except QueryError Unit :=
    (greeting, .error (.connectionFailed reason))
  if !server.isAt c then refused {} "no server is there"
  else if !isSendable c.user || !isSendable c.database then
    refused {} "a text holds a null character"
  else
    let greeting : Greeting := { startup := some (c.user, c.database) }
    match server.admission, c.password with
    | .trust, _ => (greeting, .ok ())
    | .reject, _ => refused greeting "the server rejects the user"
    | .password, none => refused greeting "the server asks for a password"
    | .password, some password =>
      if isSendable password then ({ greeting with password }, .ok ())
      else refused greeting "a text holds a null character"

/-- What a server may get wrong with a statement. -/
inductive Fault where
  | prepare
  | execute
  /-- The connection breaks while the statement is prepared. -/
  | disconnect
  deriving DecidableEq, Repr

structure StatementColumn where
  name : String
  type : ColumnType
  deriving DecidableEq, Repr

structure Reply where
  columns : List StatementColumn
  rows : List (List Cell)
  fault : Option Fault := none
  deriving DecidableEq, Repr

inductive Request where
  | prepare (sql : String)
  | execute
  deriving DecidableEq, Repr

/-- A connection and all that was sent over it. -/
structure Connection where
  isOpen : Bool := true
  requests : List Request := []
  deriving DecidableEq, Repr

namespace Connection

def send (request : Request) (c : Connection) : Connection :=
  { c with requests := c.requests ++ [request] }

def close (c : Connection) : Connection := { c with isOpen := false }

def prepared (c : Connection) : List String :=
  c.requests.filterMap fun request =>
    match request with
    | .prepare sql => some sql
    | .execute => none

end Connection

def scanRow : List (ScanShape × ColumnType) → List Cell → Except QueryError (List ScanValue)
  | [], _ => .ok []
  | _ :: _, [] => .error (.queryFailed "a row has too few cells")
  | (shape, type) :: layout, cell :: row => do
    let value ← scan shape type cell
    let values ← scanRow layout row
    return value :: values

def Reply.resultColumns (reply : Reply) : List Column :=
  reply.columns.map fun column => ⟨column.name, column.type.typeName⟩

/-- The shapes in which the columns of a statement are scanned. -/
def Reply.shapes (reply : Reply) (registry : Registry) : Except QueryError (List ScanShape) :=
  reply.resultColumns.mapM fun column => (registry.resolve column.typeName).map Converter.shape

def Reply.scanned (reply : Reply) (shapes : List ScanShape) : Except QueryError RawResult := do
  let layout := shapes.zip (reply.columns.map StatementColumn.type)
  let rows ← reply.rows.mapM (scanRow layout)
  return ⟨reply.resultColumns, rows⟩

/-- Runs SQL to which the server has the given reply. -/
def run (registry : Registry) (reply : Reply) (sql : String) :
    StateM Connection (Except QueryError RawResult) := do
  if !(← get).isOpen then return .error (.queryFailed "the connection is closed")
  else if !isSendable sql then return .error (.queryFailed "a text holds a null character")
  else
    modify (.send (.prepare sql))
    match reply.fault with
    | some .disconnect =>
      modify .close
      return .error (.queryFailed "the connection breaks")
    | some .prepare => return .error (.queryFailed "the statement is refused")
    | fault =>
      match reply.shapes registry with
      | .error e => return .error e
      | .ok shapes =>
        modify (.send .execute)
        if fault = some .execute then return .error (.queryFailed "the statement fails")
        else return reply.scanned shapes

/-- Connects as the settings ask: what the server is told, and the connection if it is made. -/
def Server.connection (server : Server) (s : Settings) :
    Greeting × Except QueryError Connection :=
  match Config.ofSettings s with
  | .error e => ({}, .error e)
  | .ok c =>
    let (greeting, admitted) := connect server c
    (greeting, admitted.map fun _ => {})

def query (reply : Reply) (q : Query) : StateM Connection (Except QueryError Frame) :=
  q.answer .standard (run .standard reply)

def session (queries : List (Query × Reply)) :
    StateM Connection (List (Except QueryError Frame)) :=
  queries.mapM fun (q, reply) => query reply q

end QueryFrame.Wire
