import TypedSql.DataLayer

namespace TypedSql.Session

variable {σ α : Type}

/-- The limit on a command's time: the session's own, else the shared one of this moment. -/
def effectiveTimeout (s : Session) (w : World σ) : Option Nat := s.timeout? <|> w.timeout?

def transaction? (s : Session) : Option Handle := s.connection?.filter fun _ => s.inTransaction

/-- Makes a call where the session stands: inside its transaction, else on a connection of its own. -/
def dispatch (layer : DataLayer σ) (s : Session) (call : Call) :
    Action σ (Except Failure call.Answer) :=
  match s.transaction? with
  | some handle => layer.send handle call
  | none => layer.sendAlone s.target call

/-- What is run: the statement as written, the procedure as called, or a statement given on the spot. -/
inductive Subject where
  | written
  | procedure
  | given (text : String) (parameters : Parameters)

def command (s : Session) (timeout : Option Nat) : Subject → Except Failure Command
  | .written => .ok (.statement s.query s.parameters timeout)
  | .given text parameters => .ok (.statement text parameters timeout)
  | .procedure =>
    match s.procedure? with
    | some call => .ok (call.command timeout)
    | none => .error .noProcedure

def declared (s : Session) : Subject → List OutputParameter
  | .procedure => (s.procedure?.map (·.outputs)).getD []
  | _ => []

/-- A count of rows or a set of rows, with the outputs that were declared and reported. -/
structure Returned (α : Type) where
  value : α
  outputs : List (String × Value)

/-- An output by its name, with the marker or without. -/
def Returned.output? (r : Returned α) (name : String) : Option Value :=
  Entries.find? (Name.bare name) r.outputs

def execute (layer : DataLayer σ) (s : Session) (subject : Subject) :
    Action σ (Except Failure (Returned Nat)) := do
  match s.command (s.effectiveTimeout (← get)) subject with
  | .error failure => return .error failure
  | .ok command =>
    return (← s.dispatch layer (.execute command)).map fun outcome =>
      ⟨outcome.rowsAffected, readOutputs (s.declared subject) outcome.outputs⟩

def queryRows (layer : DataLayer σ) (s : Session) (subject : Subject) :
    Action σ (Except Failure (Returned ResultSet)) := do
  match s.command (s.effectiveTimeout (← get)) subject with
  | .error failure => return .error failure
  | .ok command =>
    return (← s.dispatch layer (.query command)).map fun outcome =>
      ⟨outcome.resultSet, readOutputs (s.declared subject) outcome.outputs⟩

/-- How rows are taken: all or the first, as they are or mapped. -/
inductive Take (α : Type) where
  | rows
  | firstRow
  | mapped (decode : Json → Except Mapping.Flaw α)
  | firstMapped (decode : Json → Except Mapping.Flaw α)

inductive Taken (α : Type) where
  | rows (rows : List Row)
  | row (row? : Option Row)
  | mapped (values : List α)
  | oneMapped (value? : Option α)

def Take.apply (set : ResultSet) : Take α → Except Failure (Taken α)
  | .rows => .ok (.rows set.rows)
  | .firstRow => .ok (.row set.first?)
  | .mapped decode => (set.deserialize decode).map .mapped
  | .firstMapped decode =>
    match set.first? with
    | none => .ok (.oneMapped none)
    | some row => (row.deserialize decode).map fun value => .oneMapped (some value)

def fetch (layer : DataLayer σ) (s : Session) (subject : Subject) (take : Take α) :
    Action σ (Except Failure (Returned (Taken α))) := do
  match ← s.queryRows layer subject with
  | .error failure => return .error failure
  | .ok returned => return (take.apply returned.value).map fun taken => ⟨taken, returned.outputs⟩

/-- Waits for an operation where no other waits; inside one it is refused and does nothing. -/
def wait (nested : Bool) (s : Session)
    (operation : Session → Action σ (Except Failure α × Session)) :
    Action σ (Except Failure α × Session) :=
  if nested then return (.error .nestedWait, s) else operation s

end TypedSql.Session
