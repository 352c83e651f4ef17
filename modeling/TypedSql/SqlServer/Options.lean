import TypedSql.Text.Blank

namespace TypedSql.SqlServer

structure Options where
  server : String
  database : String
  user : String
  password : String
  tcpPort? : Option Nat := none
  instance? : Option String := none
  application? : Option String := none
  trustCertificate : Bool := false
  deriving DecidableEq, Inhabited

def defaultTcpPort : Nat := 1433

namespace Options

/-- A value that would be read differently if it stood bare. -/
def needsQuotes (value : String) : Bool :=
  value.toList.any (fun c => c = ';' || c = '"' || c = '\'') || Text.trim value.toList ≠ value.toList

def quote (value : String) : String :=
  String.ofList ('"' :: value.toList.flatMap (fun c => if c = '"' then ['"', '"'] else [c]) ++ ['"'])

def writeValue (value : String) : String := if needsQuotes value then quote value else value

def writePair (pair : String × String) : String := pair.1 ++ "=" ++ writeValue pair.2

/-- The address of the server: an instance is found by its name, anything else by its TCP number. -/
def address (o : Options) : String :=
  match o.instance? with
  | some name => "tcp:" ++ o.server ++ "\\" ++ name
  | none => s!"tcp:{o.server},{o.tcpPort?.getD defaultTcpPort}"

def pairs (o : Options) : List (String × String) :=
  [("Server", o.address), ("Database", o.database), ("User Id", o.user), ("Password", o.password)] ++
    (o.application?.map fun name => ("Application Name", name)).toList ++
    (if o.trustCertificate then [("TrustServerCertificate", "true")] else [])

def connectionString (o : Options) : String := ";".intercalate (o.pairs.map writePair)

end Options

end TypedSql.SqlServer
