import TypedSql.DataLayer

namespace TypedSql.Session

variable {σ : Type}

/-- The connection a transaction starts on: the one at hand, else a new one. -/
def acquire (layer : DataLayer σ) (s : Session) : Action σ (Except Failure Handle) :=
  match s.connection? with
  | some handle => return .ok handle
  | none => layer.connect s.target

/-- Starts a transaction; one that is open already stays as it is. -/
def begin (layer : DataLayer σ) (s : Session) : Action σ (Except Failure Unit × Session) := do
  if s.inTransaction then return (.ok (), s)
  match ← s.acquire layer with
  | .error failure => return (.error failure, s)
  | .ok handle =>
    match ← layer.whenOpen handle (layer.send handle .begin) with
    | .ok () => return (.ok (), { s with connection? := some handle, inTransaction := true })
    | .error failure =>
      layer.release handle
      return (.error failure, { s with connection? := none })

def idle (s : Session) : Session := { s with connection? := none, inTransaction := false }

/-- Commits; a commit that fails is rolled back, and its own failure is the one reported. -/
def commit (layer : DataLayer σ) (s : Session) : Action σ (Except Failure Unit × Session) := do
  match s.connection? with
  | none => return (.ok (), s.idle)
  | some handle =>
    let answer ← if s.inTransaction then layer.send handle .commit else pure (.ok ())
    if let .error _ := answer then
      let _ ← layer.send handle .rollback
    layer.release handle
    return (answer, s.idle)

def rollback (layer : DataLayer σ) (s : Session) : Action σ (Except Failure Unit × Session) := do
  match s.connection? with
  | none => return (.ok (), s.idle)
  | some handle =>
    let answer ← if s.inTransaction then layer.send handle .rollback else pure (.ok ())
    layer.release handle
    return (answer, s.idle)

def dispose (layer : DataLayer σ) (s : Session) : Action σ (Except Failure Unit) := do
  return (← s.rollback layer).1

/-- Lets go of a session that was not disposed of: what it still holds is released unseen. -/
def drop (layer : DataLayer σ) (s : Session) : Action σ Unit := do
  match s.connection? with
  | none => return ()
  | some handle =>
    if s.inTransaction then
      let _ ← layer.send handle .rollback
    layer.release handle

end TypedSql.Session
