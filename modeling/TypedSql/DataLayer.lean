import TypedSql.Session

namespace TypedSql

inductive Call where
  | connect (target : String)
  | openUp
  | close
  | begin
  | commit
  | rollback
  | execute (command : Command)
  | query (command : Command)
  deriving Inhabited

/-- What a call answers when it succeeds. -/
@[reducible] def Call.Answer : Call → Type
  | .execute _ => ExecuteOutcome
  | .query _ => QueryOutcome
  | _ => Unit

/-- A call, the connection it was made on, and whether it succeeded. -/
structure Event where
  handle : Handle
  call : Call
  succeeded : Bool
  deriving Inhabited

/-- Whatever runs the calls: it says whether a connection is open and answers every call, in some
state of its own. -/
structure DataLayer (σ : Type) where
  isOpen : Handle → σ → Bool
  answer : Handle → (call : Call) → σ → Except Failure call.Answer × σ

/-- The surroundings that sessions share. -/
structure World (σ : Type) where
  layer : σ
  handles : Nat := 0
  timeout? : Option Nat := none
  trace : List Event := []

/-- Sets the limit that holds for every session without one of its own. -/
def World.setTimeout {σ : Type} (w : World σ) (seconds : Nat) : World σ := { w with timeout? := some seconds }

def World.clearTimeout {σ : Type} (w : World σ) : World σ := { w with timeout? := none }

abbrev Action (σ α : Type) := StateM (World σ) α

namespace DataLayer

variable {σ : Type}

def send (layer : DataLayer σ) (handle : Handle) (call : Call) :
    Action σ (Except Failure call.Answer) := fun w =>
  let (answer, state) := layer.answer handle call w.layer
  (answer, { w with layer := state, trace := w.trace ++ [⟨handle, call, answer.isOk⟩] })

/-- Asks for a connection; a request that fails uses its handle up. -/
def connect (layer : DataLayer σ) (target : String) : Action σ (Except Failure Handle) := do
  modify fun w => { w with handles := w.handles + 1 }
  let handle := (← get).handles
  match ← layer.send handle (.connect target) with
  | .ok () => return .ok handle
  | .error failure => return .error failure

/-- Closes a connection; a failure to do so is of no consequence. -/
def release (layer : DataLayer σ) (handle : Handle) : Action σ Unit := do
  let _ ← layer.send handle .close

def ensureOpen (layer : DataLayer σ) (handle : Handle) : Action σ (Except Failure Unit) := do
  if layer.isOpen handle (← get).layer then return .ok () else layer.send handle .openUp

/-- Opens a connection that is closed, then goes on; a failure to open ends it. -/
def whenOpen {α : Type} (layer : DataLayer σ) (handle : Handle)
    (next : Action σ (Except Failure α)) : Action σ (Except Failure α) := do
  match ← layer.ensureOpen handle with
  | .ok () => next
  | .error failure => return .error failure

/-- Makes one call on a connection of its own, which is closed whatever comes of the call. -/
def sendAlone (layer : DataLayer σ) (target : String) (call : Call) :
    Action σ (Except Failure call.Answer) := do
  match ← layer.connect target with
  | .error failure => return .error failure
  | .ok handle =>
    let answer ← layer.whenOpen handle (layer.send handle call)
    layer.release handle
    return answer

end DataLayer

end TypedSql
