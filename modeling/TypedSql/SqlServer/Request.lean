import TypedSql.Json.Printer
import TypedSql.Parameters
import TypedSql.Placeholder

namespace TypedSql.SqlServer

inductive Argument where
  | bigint (value : Int64)
  | float (value : Binary64)
  | bit (value : Bool)
  | nvarchar (value : String)
  | null
  | varbinary (bytes : List UInt8)
  | datetime2 (days : Int) (units : Nat)

namespace Argument

/-- A timestamp counts days since 0001-01-01 and units of a hundred nanoseconds since midnight. -/
def ofTimestamp (t : Timestamp) : Argument :=
  .datetime2 t.date.toDays ((t.clock.seconds * 1000000000 + t.clock.nanosecond) / 100)

def ofValue : Value → Argument
  | .int n => .bigint n
  | .float x => .float x
  | .text s => .nvarchar s
  | .bool b => .bit b
  | .timestamp t => ofTimestamp t
  | .null => .null
  | .json document => .nvarchar document.render
  | .blob bytes => .varbinary bytes

/-- A declared length, or no bound past the limit. -/
def sized (name : String) (limit size : Nat) : String :=
  if size ≤ limit then s!"{name}({limit})" else name ++ "(max)"

/-- The type that a value is declared with; texts are measured in UTF-8 bytes. -/
def declaredType : Argument → String
  | .bigint _ => "bigint"
  | .float _ => "float(53)"
  | .bit _ => "bit"
  | .nvarchar s => sized "nvarchar" 4000 s.utf8ByteSize
  | .null => "nvarchar(4000)"
  | .varbinary content => sized "varbinary" 8000 content.length
  | .datetime2 _ _ => "datetime2"

end Argument

/-- A text sent to the server with its arguments, the first of which is called `@P1`. -/
structure Request where
  sql : String
  arguments : List Argument

namespace Request

def new (sql : String) (parameters : Parameters) : Request :=
  ⟨sql, parameters.values.map Argument.ofValue⟩

def named (r : Request) : List (String × Argument) :=
  (r.arguments.zipIdx 1).map fun (argument, position) => (Placeholder.positional position, argument)

def declared (r : Request) : String :=
  ",".intercalate (r.named.map fun (name, argument) => name ++ " " ++ argument.declaredType)

end Request

end TypedSql.SqlServer
