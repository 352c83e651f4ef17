import TypedSql.Command
import TypedSql.Placeholder

namespace TypedSql.SqlServer

/-- The column that carries the number of affected rows beside the outputs. -/
def rowCountColumn : String := "__rowcount"

/-- A name between brackets, with every closing bracket in it doubled. -/
def bracketed (name : String) : String :=
  String.ofList ('[' :: name.toList.flatMap (fun c => if c = ']' then [']', ']'] else [c]) ++ [']'])

/-- The arguments of a call: inputs by position, outputs by the variables that receive them. -/
def callArguments (parameters : Parameters) (outputs : List OutputParameter) : List String :=
  (parameters.names.zipIdx 1).map (fun (name, position) => name ++ " = " ++ Placeholder.positional position) ++
    outputs.map fun output => output.variableName ++ " = " ++ output.variableName ++ " OUTPUT"

def callText (name : String) (parameters : Parameters) (outputs : List OutputParameter) : String :=
  match callArguments parameters outputs with
  | [] => "EXEC " ++ name
  | arguments => "EXEC " ++ name ++ " " ++ ", ".intercalate arguments

def declareText (output : OutputParameter) : String :=
  "DECLARE " ++ output.variableName ++ " " ++ output.declaration ++ " = NULL;\n"

def readBackColumns (outputs : List OutputParameter) (countRows : Bool) : List String :=
  (if countRows then ["@@ROWCOUNT AS " ++ bracketed rowCountColumn] else []) ++
    outputs.map fun output => output.variableName ++ " AS " ++ bracketed (Name.bare output.name)

/-- A batch that declares the outputs, calls the procedure and selects the outputs. -/
def outputBatch (name : String) (parameters : Parameters) (outputs : List OutputParameter)
    (countRows : Bool) : String :=
  String.join (outputs.map declareText) ++ callText name parameters outputs ++ ";\n" ++
    "SELECT " ++ ", ".intercalate (readBackColumns outputs countRows) ++ ";"

def commandText (command : Command) (countRows : Bool) : String :=
  match command.kind with
  | .text => Placeholder.substitute command.text command.parameters.names
  | .storedProcedure =>
    if command.outputs.isEmpty then callText command.text command.parameters []
    else outputBatch command.text command.parameters command.outputs countRows

def readsBack (command : Command) : Bool :=
  command.kind = .storedProcedure && !command.outputs.isEmpty

end TypedSql.SqlServer
