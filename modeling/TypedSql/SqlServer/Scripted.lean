import TypedSql.SqlServer.Layer

namespace TypedSql.SqlServer

structure Script where
  /-- The answers in turn; when they are used up every request succeeds with nothing. -/
  responses : List Response := []
  responseTo : List (String × Response) := []
  loginError? : Option ServerError := none
  deriving Inhabited

inductive Seen where
  | login (settings : Settings)
  | request (request : Request)

namespace Script

structure State where
  script : Script := {}
  seen : List Seen := []
  /-- Whether there is a way to the machine's own address, on which the server listens. -/
  loopback : Bool := true

def host : String := "127.0.0.1"

def tcpPort : Nat := 14333

def notConnected (settings : Settings) (reason : String) : Failure :=
  .connection (s!"TCP connection to {settings.host}:{settings.tcpPort} failed: " ++
    "An error occurred during the attempt of performing I/O: " ++ reason)

def refused (reason : String) : Failure := .connection ("SQL Server login failed: " ++ reason)

/-- Admits a client that finds the server and asks for no encryption. -/
def login (settings : Settings) (s : State) : Except Failure Unit × State :=
  if settings.host ≠ host || !s.loopback then
    (.error (notConnected settings "Network is unreachable (os error 101)"), s)
  else if settings.tcpPort ≠ tcpPort then
    (.error (notConnected settings "Connection refused (os error 111)"), s)
  else if settings.encryption ≠ .plaintext then
    (.error (refused "Protocol error: Server does not allow the requested encryption level."), s)
  else
    let s := { s with seen := s.seen ++ [Seen.login settings] }
    match s.script.loginError? with
    | some error => (.error (refused error.text), s)
    | none => (.ok (), s)

def endsTransaction (sql : String) : Bool := " TRANSACTION".toList.isSuffixOf sql.toList

def respond (request : Request) (s : State) : Response × State :=
  let s := { s with seen := s.seen ++ [Seen.request request] }
  match Entries.find? request.sql s.script.responseTo with
  | some response => (response, s)
  | none =>
    if endsTransaction request.sql then (.reply {}, s)
    else
      match s.script.responses with
      | [] => (.reply {}, s)
      | response :: rest => (response, { s with script := { s.script with responses := rest } })

def server : Server State := ⟨login, respond⟩

end Script

end TypedSql.SqlServer
