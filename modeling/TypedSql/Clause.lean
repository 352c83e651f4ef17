import TypedSql.JoinKind
import TypedSql.Payload
import TypedSql.Session
import TypedSql.Stage
import TypedSql.Text.Word

namespace TypedSql

inductive Opening where
  | select (columns : List String)
  | selectAll
  | insertInto (table : String)
  | update (table : String)
  | deleteFrom (table : String)
  | procedure (name : String)

inductive Clause where
  | distinct
  | top (rows : Nat)
  | fromTable (table : String) (name? : Option String)
  | withNoLock
  | join (table : String) (name? : Option String) (kind : JoinKind)
  | joinOn (condition : String) (parameters : Parameters)
  | filter (condition : String) (parameters : Parameters)
  | groupBy (columns : List String)
  | having (condition : String) (parameters : Parameters)
  | orderBy (columns : List String)
  | ascending
  | descending
  | insertValues (parameters : Parameters)
  | updateSet (parameters : Parameters)
  | withParameter (name : String) (value : Value)
  | withParameters (parameters : Parameters)
  | withFieldsOf (payload : Payload)
  | withOutputs (outputs : List OutputParameter)

def listed (items : List String) : String := ", ".intercalate items

namespace Opening

def stage : Opening → Stage
  | .select _ => .select
  | .selectAll => .select
  | .insertInto _ => .insert
  | .update _ => .update
  | .deleteFrom _ => .delete
  | .procedure _ => .storedProcedure

def perform (s : Session) : Opening → Session
  | .select columns => s.startText ("SELECT " ++ listed columns)
  | .selectAll => s.startText "SELECT *"
  | .insertInto table => s.startText ("INSERT INTO " ++ table)
  | .update table => s.startText ("UPDATE " ++ table)
  | .deleteFrom table => s.startText ("DELETE FROM " ++ table)
  | .procedure name => s.startProcedure name

end Opening

namespace Keyword

/-- What follows a word at the front of a text. -/
def after? : List Char → List Char → Option (List Char)
  | [], rest => some rest
  | _ :: _, [] => none
  | w :: ws, c :: rest => if w = c then after? ws rest else none

def endsWord (rest : List Char) : Bool := !(rest.head?.any Text.isWord)

/-- Edits a text at the first word start where the edit applies. -/
def editFirst (edit : List Char → Option (List Char)) (before : Option Char) :
    List Char → List Char
  | [] => []
  | c :: rest =>
    let edited := if before.any Text.isWord then none else edit (c :: rest)
    edited.getD (c :: editFirst edit (some c) rest)

def addDistinct (cs : List Char) : Option (List Char) :=
  match after? "SELECT".toList cs with
  | some rest => if endsWord rest then some ("SELECT DISTINCT".toList ++ rest) else none
  | none => none

def addTop (rows : Nat) (cs : List Char) : Option (List Char) :=
  let limit := s!" TOP {rows}".toList
  match after? "SELECT".toList cs with
  | none => none
  | some rest =>
    match after? " DISTINCT".toList rest with
    | some further =>
      if endsWord further then some ("SELECT DISTINCT".toList ++ limit ++ further)
      else some ("SELECT".toList ++ limit ++ rest)
    | none => some ("SELECT".toList ++ limit ++ rest)

end Keyword

namespace Session

/-- Edits the text at the first SELECT; where nothing is written there is nothing to edit. -/
def editSelect (s : Session) (edit : List Char → Option (List Char)) : Session :=
  { s with query? := s.query?.map fun text => String.ofList (Keyword.editFirst edit none text.toList) }

/-- A condition goes in once its parameters are bound. -/
def addCondition (s : Session) (keyword condition : String) (parameters : Parameters) :
    Except Failure Unit × Session :=
  match s.bindAll parameters with
  | (.ok (), bound) => (.ok (), bound.append (keyword ++ condition))
  | (.error failure, unbound) => (.error failure, unbound)

end Session

namespace Clause

def tableSource (table : String) : Option String → String
  | none => table
  | some name => table ++ " " ++ name

def valuesText (parameters : Parameters) : String :=
  " (" ++ listed (parameters.names.map Name.bare) ++ ") " ++
    " VALUES (" ++ listed parameters.names ++ ")"

def setText (parameters : Parameters) : String :=
  " SET " ++ listed (parameters.names.map fun name => Name.bare name ++ " = " ++ name)

/-- Whether a clause fails, and the session as it leaves it. -/
def perform (s : Session) : Clause → Except Failure Unit × Session
  | .distinct => (.ok (), s.editSelect Keyword.addDistinct)
  | .top rows => (.ok (), s.editSelect (Keyword.addTop rows))
  | .fromTable table name? => (.ok (), s.append (" FROM " ++ tableSource table name?))
  | .withNoLock => (.ok (), s.append " WITH (NOLOCK)")
  | .join table name? kind =>
    (.ok (), s.append (" " ++ kind.keyword ++ " JOIN " ++ tableSource table name?))
  | .joinOn condition parameters => s.addCondition " ON " condition parameters
  | .filter condition parameters => s.addCondition " WHERE " condition parameters
  | .groupBy columns => (.ok (), s.append (" GROUP BY " ++ listed columns))
  | .having condition parameters => s.addCondition " HAVING " condition parameters
  | .orderBy columns => (.ok (), s.append (" ORDER BY " ++ listed columns))
  | .ascending => (.ok (), s.append " ASC")
  | .descending => (.ok (), s.append " DESC")
  | .insertValues parameters =>
    if parameters.isEmpty then (.error (.noColumns "values"), s)
    else (s.append (valuesText parameters)).bindAll parameters
  | .updateSet parameters =>
    if parameters.isEmpty then (.error (.noColumns "set"), s)
    else (s.append (setText parameters)).bindAll parameters
  | .withParameter name value =>
    (.ok (), s.updateCall fun call => { call with parameters := call.parameters.bind name value })
  | .withParameters parameters =>
    (.ok (), s.updateCall fun call => { call with parameters := call.parameters.merge parameters })
  | .withFieldsOf payload =>
    match payload.toJson.bind Parameters.ofJson with
    | .ok parameters =>
      (.ok (), s.updateCall fun call => { call with parameters := call.parameters.merge parameters })
    | .error failure => (.error failure, s)
  | .withOutputs outputs =>
    (.ok (), s.updateCall fun call => { call with outputs := call.outputs ++ outputs })

end Clause

/-- The stage that a clause leads to, where the statement admits it. -/
def Stage.next? : Stage → Clause → Option Stage
  | .select, .distinct => some .distinct
  | .select, .top _ | .distinct, .top _ => some .top
  | .select, .fromTable _ _ | .distinct, .fromTable _ _ | .top, .fromTable _ _ => some .selectFrom
  | .selectFrom, .withNoLock => some .selectFromNoLock
  | .joinOn, .withNoLock => some .joinOnNoLock
  | .selectFrom, .join _ _ _ | .selectFromNoLock, .join _ _ _ => some .join
  | .join, .joinOn _ _ => some .joinOn
  | .selectFrom, .filter _ _ | .selectFromNoLock, .filter _ _ | .joinOn, .filter _ _
  | .joinOnNoLock, .filter _ _ => some .selectWhere
  | .updateSet, .filter _ _ | .delete, .filter _ _ => some .nonQueryWhere
  | .selectFrom, .groupBy _ | .selectFromNoLock, .groupBy _ | .joinOn, .groupBy _
  | .joinOnNoLock, .groupBy _ | .selectWhere, .groupBy _ => some .groupBy
  | .groupBy, .having _ _ => some .having
  | .selectFrom, .orderBy _ | .selectFromNoLock, .orderBy _ | .joinOn, .orderBy _
  | .joinOnNoLock, .orderBy _ | .selectWhere, .orderBy _ | .groupBy, .orderBy _
  | .having, .orderBy _ => some .orderBy
  | .orderBy, .ascending | .orderBy, .descending => some .ascendingDescending
  | .insert, .insertValues _ => some .insertValues
  | .update, .updateSet _ => some .updateSet
  | .storedProcedure, .withParameter _ _ | .storedProcedureParameters, .withParameter _ _
  | .storedProcedure, .withParameters _ | .storedProcedureParameters, .withParameters _
  | .storedProcedure, .withFieldsOf _ | .storedProcedureParameters, .withFieldsOf _ =>
    some .storedProcedureParameters
  | .storedProcedure, .withOutputs _ | .storedProcedureParameters, .withOutputs _
  | .storedProcedureOutput, .withOutputs _ => some .storedProcedureOutput
  | _, _ => none

end TypedSql
