namespace TypedSql

inductive Stage where
  | select
  | distinct
  | top
  | selectFrom
  | selectFromNoLock
  | join
  | joinOn
  | joinOnNoLock
  | selectWhere
  | groupBy
  | having
  | orderBy
  | ascendingDescending
  | insert
  | insertValues
  | update
  | updateSet
  | delete
  | nonQueryWhere
  | storedProcedure
  | storedProcedureParameters
  | storedProcedureOutput
  deriving DecidableEq, Inhabited

namespace Stage

def label : Stage → String
  | .select => "Select"
  | .distinct => "Distinct"
  | .top => "Top"
  | .selectFrom => "SelectFrom"
  | .selectFromNoLock => "SelectFromNoLock"
  | .join => "Join"
  | .joinOn => "JoinOn"
  | .joinOnNoLock => "JoinOnNoLock"
  | .selectWhere => "SelectWhere"
  | .groupBy => "GroupBy"
  | .having => "Having"
  | .orderBy => "OrderBy"
  | .ascendingDescending => "AscendingDescending"
  | .insert => "Insert"
  | .insertValues => "InsertValues"
  | .update => "Update"
  | .updateSet => "UpdateSet"
  | .delete => "Delete"
  | .nonQueryWhere => "NonQueryWhere"
  | .storedProcedure => "StoredProcedure"
  | .storedProcedureParameters => "StoredProcedureParameters"
  | .storedProcedureOutput => "StoredProcedureOutput"

def endsQuery : Stage → Bool
  | .selectFrom | .selectFromNoLock | .joinOn | .joinOnNoLock | .selectWhere | .groupBy | .having
  | .orderBy | .ascendingDescending => true
  | _ => false

def endsNonQuery : Stage → Bool
  | .insertValues | .updateSet | .delete | .nonQueryWhere => true
  | _ => false

def isProcedure : Stage → Bool
  | .storedProcedure | .storedProcedureParameters | .storedProcedureOutput => true
  | _ => false

end Stage

end TypedSql
