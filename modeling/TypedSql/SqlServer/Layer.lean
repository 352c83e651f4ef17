import TypedSql.DataLayer
import TypedSql.SqlServer.Batch
import TypedSql.SqlServer.Server

namespace TypedSql.SqlServer

/-- A connection: the settings it was made from, and whether a client is connected. -/
structure Connection where
  settings : Settings
  isOpen : Bool := false
  deriving Inhabited

/-- The connections that were made, beside the state of the server they lead to. -/
structure State (τ : Type) where
  connections : List (Handle × Connection) := []
  server : τ

namespace State

variable {τ : Type}

def connection? (s : State τ) (handle : Handle) : Option Connection :=
  (s.connections.find? (·.1 = handle)).map (·.2)

def isOpen (s : State τ) (handle : Handle) : Bool := (s.connection? handle).any (·.isOpen)

def add (s : State τ) (handle : Handle) (connection : Connection) : State τ :=
  { s with connections := (handle, connection) :: s.connections }

def setOpen (s : State τ) (handle : Handle) (isOpen : Bool) : State τ :=
  { s with connections := s.connections.map fun (other, connection) =>
      (other, if other = handle then { connection with isOpen } else connection) }

def openUp (server : Server τ) (s : State τ) (handle : Handle) : Except Failure Unit × State τ :=
  match s.connection? handle with
  | none => (.error .notOpen, s)
  | some connection =>
    if connection.isOpen then (.ok (), s)
    else
      match server.login connection.settings s.server with
      | (.ok (), state) => (.ok (), { s with server := state }.setOpen handle true)
      | (.error failure, state) => (.error failure, { s with server := state })

/-- The time limit that a command is under; none is as good as no time at all. -/
def limit? (timeout : Option Nat) : Option Nat := timeout.filter fun seconds => 0 < seconds

/-- Sends a request over an open connection; a client that waited in vain is dropped. -/
def request (server : Server τ) (s : State τ) (handle : Handle) (timeout : Option Nat)
    (request : Request) : Except Failure Reply × State τ :=
  if s.isOpen handle then
    let (response, state) := server.respond request s.server
    let s := { s with server := state }
    match response, limit? timeout with
    | .silence, some seconds => (.error (.timeout seconds), s.setOpen handle false)
    | response, _ => (response.reply?, s)
  else (.error .notOpen, s)

def batch (server : Server τ) (s : State τ) (handle : Handle) (sql : String) :
    Except Failure Unit × State τ :=
  let (answer, s) := s.request server handle none ⟨sql, []⟩
  (answer.map fun _ => (), s)

end State

/-- The first row of the last set, by the marked names of its columns; of equal names the last counts. -/
def readBack (sets : List ResultSet) : List (String × Value) :=
  match (sets.getLast?).bind (·.first?) with
  | none => []
  | some row => Entries.putAll [] (row.pairs.map fun (column, value) => (Name.marked column, value))

/-- A row count is a number that is not negative. -/
def countOf : Option Value → Nat
  | some (.int n) => n.toInt.toNat
  | _ => 0

/-- What a reply means to a command that asked for a count. -/
def executeOutcome (command : Command) (reply : Reply) : Except Failure ExecuteOutcome :=
  if readsBack command then
    reply.resultSets.map fun sets =>
      let values := readBack sets
      let count := Name.marked rowCountColumn
      ⟨countOf (Entries.find? count values), Entries.erase count values⟩
  else .ok ⟨reply.rowCount, []⟩

/-- What a reply means to a command that asked for rows: the first set, apart from the one that hands
the outputs back. -/
def queryOutcome (command : Command) (reply : Reply) : Except Failure QueryOutcome :=
  reply.resultSets.map fun sets =>
    if readsBack command then ⟨sets.dropLast.head?.getD .empty, readBack sets⟩
    else ⟨sets.head?.getD .empty, []⟩

variable {τ : Type}

def run {α : Type} (server : Server τ) (s : State τ) (handle : Handle) (command : Command)
    (countRows : Bool) (read : Reply → Except Failure α) : Except Failure α × State τ :=
  let (answer, s) := s.request server handle command.timeout
    (.new (commandText command countRows) command.parameters)
  (answer.bind read, s)

def layer (server : Server τ) : DataLayer (State τ) where
  isOpen handle s := s.isOpen handle
  answer handle call s :=
    match call with
    | .connect target =>
      match readConnectionString target with
      | .ok settings => (.ok (), s.add handle { settings })
      | .error failure => (.error failure, s)
    | .openUp => s.openUp server handle
    | .close => (.ok (), s.setOpen handle false)
    | .begin => s.batch server handle "BEGIN TRANSACTION"
    | .commit => s.batch server handle "COMMIT TRANSACTION"
    | .rollback => s.batch server handle "ROLLBACK TRANSACTION"
    | .execute command => run server s handle command true (executeOutcome command)
    | .query command => run server s handle command false (queryOutcome command)

end TypedSql.SqlServer
