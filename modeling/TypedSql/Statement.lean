import TypedSql.Clause
import TypedSql.Session.Execution

namespace TypedSql

/-- A statement being written: how far it is, and the session that holds its text. -/
structure Statement where
  stage : Stage
  session : Session
  deriving Inhabited

namespace Statement

variable {σ α : Type}

def start (s : Session) (opening : Opening) : Statement := ⟨opening.stage, opening.perform s⟩

/-- Adds a clause: nothing where the stage does not admit it, else the longer statement or the reason
why the clause fails, and the session as the clause leaves it. -/
def add? (t : Statement) (clause : Clause) : Option (Except Failure Statement × Session) :=
  (t.stage.next? clause).map fun stage =>
    let (answer, session) := clause.perform t.session
    (answer.map fun () => ⟨stage, session⟩, session)

inductive Terminal (α : Type) where
  | query (take : Session.Take α)
  | execute
  | callQuery (take : Session.Take α)
  | callExecute

def Terminal.admitted (stage : Stage) : Terminal α → Bool
  | .query _ => stage.endsQuery
  | .execute => stage.endsNonQuery
  | .callQuery _ => stage.isProcedure
  | .callExecute => stage.isProcedure

inductive Result (α : Type) where
  | taken (taken : Session.Taken α)
  | count (rows : Nat)

def finish (layer : DataLayer σ) (t : Statement) :
    Terminal α → Action σ (Except Failure (Session.Returned (Result α)))
  | .query take => return (← t.session.fetch layer .written take).map fun r => ⟨.taken r.value, r.outputs⟩
  | .execute => return (← t.session.execute layer .written).map fun r => ⟨.count r.value, r.outputs⟩
  | .callQuery take =>
    return (← t.session.fetch layer .procedure take).map fun r => ⟨.taken r.value, r.outputs⟩
  | .callExecute =>
    return (← t.session.execute layer .procedure).map fun r => ⟨.count r.value, r.outputs⟩

/-- Runs a statement where its stage admits the terminal. -/
def finish? (layer : DataLayer σ) (t : Statement) (terminal : Terminal α) :
    Option (Action σ (Except Failure (Session.Returned (Result α)))) :=
  if terminal.admitted t.stage then some (t.finish layer terminal) else none

end Statement

end TypedSql
