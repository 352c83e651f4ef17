namespace TypedSql

/-- Why an operation failed: its kind and what the layer that failed had to say. -/
inductive Failure where
  | server (message : String)
  | io (message : String)
  | mapping (message : String)
  | argument (message : String)
  | configuration (message : String)
  | connection (message : String)
  | parameter (message : String)
  | execution (message : String)
  | timeout (seconds : Nat)
  | other (message : String)
  deriving DecidableEq, Inhabited

namespace Failure

/-- What is reported: failures of the server, of input and output and of mapping speak for themselves. -/
def message : Failure → String
  | .server text => text
  | .io text => text
  | .mapping text => text
  | .argument text => "Argument error: " ++ text
  | .configuration text => "Configuration error: " ++ text
  | .connection text => "Connection error: " ++ text
  | .parameter text => "Parameter conversion error: " ++ text
  | .execution text => "SQL execution error: " ++ text
  | .timeout seconds => s!"Command timed out after {seconds} seconds"
  | .other text => "Other database error: " ++ text

def boundDifferently (name : String) : Failure :=
  .argument (name ++ " is already bound to a different value")

def noColumns (clause : String) : Failure :=
  .argument (clause ++ " requires at least one column")

def notNamedFields (document : String) : Failure :=
  .parameter ("expected an object with named fields, got " ++ document)

def noProcedure : Failure := .execution "no stored procedure has been started"

def notOpen : Failure := .connection "connection is not open"

/-- A blocking wait is asked for where waiting would block the waiter itself. -/
def nestedWait : Failure :=
  .other "blocking::run called from within an async runtime; await the future instead"

def isArgument : Failure → Bool
  | .argument _ => true
  | _ => false

end Failure

end TypedSql
