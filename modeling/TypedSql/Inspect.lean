import TypedSql.Statement
import TypedSql.Text.Quoted

/-! The text by which sessions, statements and what they hold are shown to a reader of logs. -/

namespace TypedSql.Inspect

/-- Numbers from a ten-thousandth up to below 10^16 are positional; a half goes up. -/
def numberLayout : Binary64.Layout := ⟨-4, 15, "", .up⟩

def bracketed (items : List String) : String := "[" ++ ", ".intercalate items ++ "]"

def braced (items : List String) : String := "\x7b" ++ ", ".intercalate items ++ "\x7d"

def struct (name : String) (fields : List (String × String)) : String :=
  name ++ " \x7b " ++ ", ".intercalate (fields.map fun (field, text) => field ++ ": " ++ text) ++ " \x7d"

def openStruct (name : String) (fields : List (String × String)) : String :=
  name ++ " \x7b " ++ ", ".intercalate ((fields.map fun (field, text) => field ++ ": " ++ text) ++ [".."])
    ++ " \x7d"

def variant (name content : String) : String := name ++ "(" ++ content ++ ")"

def optional {α : Type} (text : α → String) : Option α → String
  | none => "None"
  | some a => variant "Some" (text a)

def truth (b : Bool) : String := if b then "true" else "false"

mutual

def json : Json → String
  | .null => "Null"
  | .bool b => variant "Bool" (truth b)
  | .integer n => variant "Number" (toString n.val)
  | .double x => variant "Number" (x.render Json.numberLayout)
  | .string s => variant "String" (Text.quoted s)
  | .array items => "Array " ++ bracketed (jsonItems items)
  | .object members => "Object " ++ braced (jsonMembers members)

def jsonItems : List Json → List String
  | [] => []
  | item :: rest => json item :: jsonItems rest

def jsonMembers : List (String × Json) → List String
  | [] => []
  | (name, item) :: rest => (Text.quoted name ++ ": " ++ json item) :: jsonMembers rest

end

def value : Value → String
  | .int n => variant "Int" (toString n.toInt)
  | .float x => variant "Float" (x.render numberLayout)
  | .text s => variant "Text" (Text.quoted s)
  | .bool b => variant "Bool" (truth b)
  | .timestamp t => variant "Timestamp" t.render
  | .null => "Null"
  | .json document => variant "JSON" (json document)
  | .blob bytes => variant "Blob" (bracketed (bytes.map fun b => toString b.toNat))

def parameters (p : Parameters) : String :=
  struct "Parameters"
    [("entries", braced (p.entries.map fun (name, held) => Text.quoted name ++ ": " ++ value held))]

def outputParameter (p : OutputParameter) : String :=
  struct "OutputParameter"
    [("name", Text.quoted p.name),
     ("db_type", p.type.label),
     ("size", optional toString p.size),
     ("precision", optional toString p.precision),
     ("scale", optional toString p.scale)]

def procedureCall (call : ProcedureCall) : String :=
  struct "ProcedureCall"
    [("name", Text.quoted call.name),
     ("parameters", parameters call.parameters),
     ("output_parameters", bracketed (call.outputs.map outputParameter))]

def session (s : Session) : String :=
  openStruct "FluentSql"
    [("query", optional Text.quoted s.query?),
     ("parameters", parameters s.parameters),
     ("procedure", optional procedureCall s.procedure?),
     ("in_transaction", truth s.inTransaction),
     ("timeout", optional toString s.timeout?)]

def statement (t : Statement) : String :=
  struct "Statement"
    [("state", Text.quoted ("fluent_sql::builder::states::" ++ t.stage.label)),
     ("query", Text.quoted t.session.query),
     ("parameters", parameters t.session.parameters)]

end TypedSql.Inspect
