import TypedSql.Failure
import TypedSql.Json

namespace TypedSql

inductive PayloadName where
  | text (name : String)
  | int (name : Int)
  | bool (name : Bool)
  | null

/-- Data of an application on its way to named parameters. -/
inductive Payload where
  | json (document : Json)
  | float (value : Binary64)
  | int (value : Int)
  | bytes (value : List UInt8)
  | char (value : Char)
  | null
  | word (name : String)
  | labelled (name : String) (content : Payload)
  | map (members : List (PayloadName × Payload))

def PayloadName.toText : PayloadName → Except Failure String
  | .text name => .ok name
  | .int n => .ok (toString n)
  | .bool b => .ok (if b then "true" else "false")
  | .null => .error (.mapping "key must be a string")

namespace Payload

mutual

/-- The document of some data: a double that is no number is null, an integer past 64 bits is refused, a word is its
text, and a label is the only member around its content. -/
def toJson : Payload → Except Failure Json
  | .json document => .ok document
  | .float x => .ok (Json.ofBinary64 x)
  | .int n =>
    if fits : -9223372036854775808 ≤ n ∧ n < 18446744073709551616 then .ok (.integer ⟨n, fits⟩)
    else .error (.mapping "number out of range")
  | .bytes content => .ok (.array (content.map fun b => .integer (.ofByte b)))
  | .char c => .ok (.string (String.singleton c))
  | .null => .ok .null
  | .word name => .ok (.string name)
  | .labelled name content => (toJson content).map fun document => .object [(name, document)]
  | .map members => (toMembers [] members).map .object

/-- Members one after the other, each at the place of its name; the first one that fails ends it. -/
def toMembers (sorted : List (String × Json)) :
    List (PayloadName × Payload) → Except Failure (List (String × Json))
  | [] => .ok sorted
  | (name, content) :: rest =>
    match name.toText with
    | .error failure => .error failure
    | .ok name =>
      match toJson content with
      | .error failure => .error failure
      | .ok document => toMembers (Json.insertMember name document sorted) rest

end

end Payload

end TypedSql
