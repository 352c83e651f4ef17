import TypedSql.ResultSet
import TypedSql.SqlServer.Cell
import TypedSql.SqlServer.ConnectionString
import TypedSql.SqlServer.Request

namespace TypedSql.SqlServer

structure ServerError where
  message : String
  code : Nat := 1
  state : Nat := 1
  severity : Nat := 1
  line : Nat := 1
  server : String
  procedure : String := ""
  deriving Inhabited

def ServerError.text (e : ServerError) : String :=
  s!"Token error: '{e.message}' on server {e.server} executing {e.procedure} on line {e.line} " ++
    s!"(code: {e.code}, state: {e.state}, class: {e.severity})"

structure CellSet where
  columns : List String
  rows : List (List Cell)
  deriving Inhabited

/-- What comes back for a request: row sets, counts of rows, perhaps an error at the end. -/
structure Reply where
  sets : List CellSet := []
  affected : List Nat := []
  error? : Option ServerError := none
  deriving Inhabited

inductive Response where
  | reply (reply : Reply)
  | silence
  | hangUp
  deriving Inhabited

/-- A server: it admits clients and answers requests, in some state of its own. -/
structure Server (τ : Type) where
  login : Settings → τ → Except Failure Unit × τ
  respond : Request → τ → Response × τ

namespace Reply

def rowCount (r : Reply) : Nat := r.sets.foldr (fun s n => s.rows.length + n) 0 + r.affected.foldr (· + ·) 0

/-- A set without rows loses its columns; a cell without a value fails the whole set. -/
def convertSet (set : CellSet) : Except Failure ResultSet :=
  if set.rows.isEmpty then .ok .empty
  else (set.rows.mapM (List.mapM Cell.toValue)).map fun rows =>
    rows.foldl ResultSet.addRow (ResultSet.empty.setColumns set.columns)

def resultSets (r : Reply) : Except Failure (List ResultSet) := r.sets.mapM convertSet

end Reply

/-- What a client without a limit makes of a response. Over silence it would wait for ever; the failure that stands
for that here is none of its own. -/
def Response.reply? : Response → Except Failure Reply
  | .reply answer =>
    match answer.error? with
    | some error => .error (.server error.text)
    | none => .ok answer
  | .silence => .error (.other "the server does not answer")
  | .hangUp => .error (.server
      "An error occurred during the attempt of performing I/O: No more packets in the wire")

end TypedSql.SqlServer
