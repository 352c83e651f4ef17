import TypedSql.DataLayer

namespace TypedSql

inductive Operation where
  | connect
  | openUp
  | close
  | begin
  | commit
  | rollback
  | execute
  | query
  deriving DecidableEq

def Call.operation : Call → Operation
  | .connect _ => .connect
  | .openUp => .openUp
  | .close => .close
  | .begin => .begin
  | .commit => .commit
  | .rollback => .rollback
  | .execute _ => .execute
  | .query _ => .query

/-- A data layer without a server: it answers what its script says. -/
structure Recorder where
  rowsAffected : Nat := 0
  resultSet : ResultSet := .empty
  outputs : List (String × Value) := []
  failures : List (Operation × Failure) := []
  /-- Connections are open as soon as they are made. -/
  initiallyOpen : Bool := false

namespace Recorder

/-- A script at work: the connections that are open. -/
structure State where
  script : Recorder := {}
  opened : List Handle := []

def failure? (script : Recorder) (operation : Operation) : Option Failure :=
  (script.failures.find? (·.1 = operation)).map (·.2)

def State.isOpen (state : State) (handle : Handle) : Bool := state.opened.contains handle

def State.setOpen (state : State) (handle : Handle) (isOpen : Bool) : State :=
  let others := state.opened.filter (· ≠ handle)
  { state with opened := if isOpen then handle :: others else others }

def State.onOpen {α : Type} (state : State) (handle : Handle) (answer : α) : Except Failure α :=
  if state.isOpen handle then .ok answer else .error (.connection "not open")

def State.succeed (state : State) (handle : Handle) : (call : Call) → Except Failure call.Answer × State
  | .connect _ => (.ok (), state.setOpen handle state.script.initiallyOpen)
  | .openUp => (.ok (), state.setOpen handle true)
  | .close => (.ok (), state.setOpen handle false)
  | .begin => (.ok (), state)
  | .commit => (.ok (), state)
  | .rollback => (.ok (), state)
  | .execute _ =>
    (state.onOpen handle ⟨state.script.rowsAffected, state.script.outputs⟩, state)
  | .query _ => (state.onOpen handle ⟨state.script.resultSet, state.script.outputs⟩, state)

/-- The scripted data layer: a failure that the script names changes nothing. -/
def layer : DataLayer State where
  isOpen handle state := state.isOpen handle
  answer handle call state :=
    match state.script.failure? call.operation with
    | some failure => (.error failure, state)
    | none => state.succeed handle call

end Recorder

end TypedSql
