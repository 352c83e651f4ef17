import TypedSql.OutputParameter
import TypedSql.Parameters
import TypedSql.ResultSet

namespace TypedSql

inductive CommandKind where
  | text
  | storedProcedure
  deriving DecidableEq, Inhabited

/-- What is sent over a connection: a statement or the name of a procedure, with its parameters. -/
structure Command where
  text : String
  kind : CommandKind
  parameters : Parameters
  outputs : List OutputParameter
  timeout : Option Nat
  deriving Inhabited

def Command.statement (text : String) (parameters : Parameters) (timeout : Option Nat) : Command :=
  ⟨text, .text, parameters, [], timeout⟩

structure ExecuteOutcome where
  rowsAffected : Nat := 0
  outputs : List (String × Value) := []
  deriving Inhabited

structure QueryOutcome where
  resultSet : ResultSet := .empty
  outputs : List (String × Value) := []
  deriving Inhabited

structure ProcedureCall where
  name : String
  parameters : Parameters := .empty
  outputs : List OutputParameter := []
  deriving Inhabited

def ProcedureCall.command (call : ProcedureCall) (timeout : Option Nat) : Command :=
  ⟨call.name, .storedProcedure, call.parameters, call.outputs, timeout⟩

/-- The declared outputs found among the reported ones, in the order of declaration; a reported value
is given to the first output that asks for it. -/
def readOutputs : List OutputParameter → List (String × Value) → List (String × Value)
  | [], _ => []
  | output :: rest, reported =>
    match Entries.find? output.variableName reported with
    | some value => (output.name, value) :: readOutputs rest (Entries.erase output.variableName reported)
    | none => readOutputs rest reported

end TypedSql
