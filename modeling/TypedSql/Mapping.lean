import TypedSql.Failure
import TypedSql.Json.Printer
import TypedSql.Text.Quoted
import TypedSql.Timestamp.Reader

namespace TypedSql.Mapping

inductive Flaw where
  | wrongKind (found : Json) (expected : String)
  | outOfRange (found : Int) (expected : String)
  | missing (field : String)
  | unknown (field : String) (known : List String)
  | timestamp (flaw : Timestamp.Flaw)

def describe : Json → String
  | .null => "null"
  | .bool b => s!"boolean \x60{b}\x60"
  | .integer n => s!"integer \x60{n.val}\x60"
  | .double x => "floating point \x60" ++ x.render Json.numberLayout ++ "\x60"
  | .string s => "string " ++ Text.quoted s
  | .array _ => "sequence"
  | .object _ => "map"

def fieldName (name : String) : String := "\x60" ++ name ++ "\x60"

def alternatives : List String → String
  | [] => "there are no fields"
  | [a] => "expected " ++ fieldName a
  | [a, b] => "expected " ++ fieldName a ++ " or " ++ fieldName b
  | names => "expected one of " ++ ", ".intercalate (names.map fieldName)

def Flaw.message : Flaw → String
  | .wrongKind found expected => "invalid type: " ++ describe found ++ ", expected " ++ expected
  | .outOfRange found expected => s!"invalid value: integer \x60{found}\x60, expected {expected}"
  | .missing field => "missing field " ++ fieldName field
  | .unknown field known => "unknown field " ++ fieldName field ++ ", " ++ alternatives known
  | .timestamp flaw => flaw.message

/-- Integers between two bounds, under the name they are asked for by. -/
structure IntegerRange where
  name : String
  low : Int
  high : Int

def IntegerRange.signed64 : IntegerRange := ⟨"i64", -9223372036854775808, 9223372036854775807⟩

def IntegerRange.signed32 : IntegerRange := ⟨"i32", -2147483648, 2147483647⟩

def IntegerRange.unsigned8 : IntegerRange := ⟨"u8", 0, 255⟩

inductive Shape where
  | integer (range : IntegerRange)
  | double
  | text
  | truth
  | timestamp
  | bytes
  | document

inductive Content where
  | absent
  | integer (value : Int)
  | double (value : Binary64)
  | text (value : String)
  | truth (value : Bool)
  | timestamp (value : Timestamp)
  | bytes (value : List UInt8)
  | document (value : Json)

def IntegerRange.decode (range : IntegerRange) : Json → Except Flaw Int
  | .integer n =>
    if range.low ≤ n.val && n.val ≤ range.high then .ok n.val
    else .error (.outOfRange n.val range.name)
  | found => .error (.wrongKind found range.name)

def Shape.decode : Shape → Json → Except Flaw Content
  | .integer range, found => (range.decode found).map .integer
  | .double, .double x => .ok (.double x)
  | .double, .integer n => .ok (.double (Binary64.ofInt n.val))
  | .double, found => .error (.wrongKind found "f64")
  | .text, .string s => .ok (.text s)
  | .text, found => .error (.wrongKind found "a string")
  | .truth, .bool b => .ok (.truth b)
  | .truth, found => .error (.wrongKind found "a boolean")
  | .timestamp, .string s =>
    match Timestamp.read Timestamp.joinedForm s with
    | .ok t => .ok (.timestamp t)
    | .error flaw => .error (.timestamp flaw)
  | .timestamp, found => .error (.wrongKind found "a formatted date and time string")
  | .bytes, .array items =>
    (items.mapM IntegerRange.unsigned8.decode).map fun ns => .bytes (ns.map fun n => UInt8.ofNat n.toNat)
  | .bytes, found => .error (.wrongKind found "a sequence")
  | .document, found => .ok (.document found)

/-- What becomes of a field whose name is missing: an error, absence, or a fixed content; only an
optional field takes null for absence. -/
inductive Presence where
  | required
  | optional
  | defaulted (content : Content)

structure Field where
  name : String
  shape : Shape
  presence : Presence := .required

/-- Named fields, in the order in which a missing one is reported. -/
structure Record where
  fields : List Field
  /-- Names that belong to no field are refused. -/
  closed : Bool := false

def Field.decode (f : Field) (found : Json) : Except Flaw Content :=
  match f.presence, found with
  | .optional, .null => .ok .absent
  | _, found => f.shape.decode found

def Field.whenMissing (f : Field) : Except Flaw Content :=
  match f.presence with
  | .required => .error (.missing f.name)
  | .optional => .ok .absent
  | .defaulted content => .ok content

/-- The contents of the members that belong to fields, in the order of the members. -/
def Record.visit (r : Record) : List (String × Json) → Except Flaw (List (String × Content))
  | [] => .ok []
  | (name, found) :: rest =>
    match r.fields.find? (·.name = name) with
    | some field => do
      let content ← field.decode found
      let others ← r.visit rest
      return (name, content) :: others
    | none => if r.closed then .error (.unknown name (r.fields.map (·.name))) else r.visit rest

def Record.decode (r : Record) : Json → Except Flaw (List (String × Content))
  | .object members => do
    let visited ← r.visit members
    r.fields.mapM fun field =>
      match visited.find? (·.1 = field.name) with
      | some (_, content) => .ok (field.name, content)
      | none => field.whenMissing.map fun content => (field.name, content)
  | found => .error (.wrongKind found "struct")

/-- Any names, each with an integer of 64 bits. -/
def integersByName : Json → Except Flaw (List (String × Int))
  | .object members =>
    members.mapM fun (name, found) => (IntegerRange.signed64.decode found).map fun n => (name, n)
  | found => .error (.wrongKind found "a map")

def Content.toJson : Content → Json
  | .absent => .null
  | .integer n => Json.ofInt n
  | .double x => Json.ofBinary64 x
  | .text s => .string s
  | .truth b => .bool b
  | .timestamp t => .string t.render
  | .bytes content => .array (content.map fun b => .integer (.ofByte b))
  | .document found => found

def recordToJson (contents : List (String × Content)) : Json :=
  Json.ofMembers (contents.map fun (name, content) => (name, content.toJson))

end TypedSql.Mapping
