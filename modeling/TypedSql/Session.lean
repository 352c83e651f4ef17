import TypedSql.Command

namespace TypedSql

/-- A connection as the session knows it. -/
abbrev Handle := Nat

/-- A session: the statement it is writing, and the connection it keeps while a transaction is open. -/
structure Session where
  target : String
  query? : Option String := none
  parameters : Parameters := .empty
  procedure? : Option ProcedureCall := none
  connection? : Option Handle := none
  inTransaction : Bool := false
  timeout? : Option Nat := none
  deriving Inhabited

namespace Session

def new (target : String) : Session := { target }

def setTimeout (s : Session) (seconds : Nat) : Session := { s with timeout? := some seconds }

/-- The text written so far, empty while a procedure is called. -/
def query (s : Session) : String := s.query?.getD ""

def procedureName? (s : Session) : Option String := s.procedure?.map (·.name)

/-- Starts a statement over, dropping what was written and bound before. -/
def startText (s : Session) (text : String) : Session :=
  { s with query? := some text, parameters := .empty, procedure? := none }

def startProcedure (s : Session) (name : String) : Session :=
  { s with query? := none, parameters := .empty, procedure? := some { name } }

def append (s : Session) (fragment : String) : Session :=
  { s with query? := some (s.query ++ fragment) }

/-- Binds parameters unless one of them is bound to a different value. -/
def bindAll (s : Session) (parameters : Parameters) : Except Failure Unit × Session :=
  match s.parameters.mergeDisjoint parameters with
  | .ok merged => (.ok (), { s with parameters := merged })
  | .error failure => (.error failure, s)

def updateCall (s : Session) (change : ProcedureCall → ProcedureCall) : Session :=
  { s with procedure? := some (change (s.procedure?.getD { name := "" })) }

end Session

end TypedSql
