import TypedSql.Json
import TypedSql.Timestamp.Reader

namespace TypedSql

inductive Value where
  | int (value : Int64)
  | float (value : Binary64)
  | text (value : String)
  | bool (value : Bool)
  | timestamp (value : Timestamp)
  | null
  | json (value : Json)
  | blob (bytes : List UInt8)
  deriving Inhabited

namespace Value

/-- Values are the same when their kind and content agree; doubles are compared as numbers. -/
def same : Value → Value → Bool
  | .int a, .int b => a == b
  | .float a, .float b => a == b
  | .text a, .text b => a == b
  | .bool a, .bool b => a == b
  | .timestamp a, .timestamp b => a = b
  | .null, .null => true
  | .json a, .json b => a == b
  | .blob a, .blob b => a == b
  | _, _ => false

instance : BEq Value := ⟨same⟩

def isNull : Value → Bool
  | .null => true
  | _ => false

def asInt? : Value → Option Int64
  | .int n => some n
  | _ => none

def asText? : Value → Option String
  | .text s => some s
  | _ => none

def asBool? : Value → Option Bool
  | .bool b => some b
  | .int n => if n = 1 then some true else if n = 0 then some false else none
  | _ => none

def asTimestamp? : Value → Option Timestamp
  | .timestamp t => some t
  | .text s => Timestamp.ofText? s
  | _ => none

def asFloat? : Value → Option Binary64
  | .float x => some x
  | .int n => some (Binary64.ofInt n.toInt)
  | _ => none

def asBlob? : Value → Option (List UInt8)
  | .blob bytes => some bytes
  | _ => none

/-- The JSON form: bytes become their numbers, timestamps their text, a double that is no number null. -/
def toJson : Value → Json
  | .int n => .integer (.ofInt64 n)
  | .float x => Json.ofBinary64 x
  | .text s => .string s
  | .bool b => .bool b
  | .timestamp t => .string t.render
  | .null => .null
  | .json document => document
  | .blob bytes => .array (bytes.map fun b => .integer (.ofByte b))

/-- The value of a document: an integer beyond 64 bits with a sign becomes the nearest double, and
arrays and objects stay documents. -/
def ofJson : Json → Value
  | .null => .null
  | .bool b => .bool b
  | .integer n =>
    if n.val < 9223372036854775808 then .int (Int64.ofInt n.val) else .float (Binary64.ofInt n.val)
  | .double x => .float x
  | .string s => .text s
  | .array items => .json (.array items)
  | .object members => .json (.object members)

def ofOption {α : Type} (ofValue : α → Value) : Option α → Value
  | none => .null
  | some a => ofValue a

end Value

end TypedSql
