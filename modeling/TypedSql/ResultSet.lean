import TypedSql.Row

namespace TypedSql

/-- Rows that share a header; a row added before any columns are named is dropped. -/
structure ResultSet where
  rows : List Row := []
  rowsAffected : Nat := 0
  header? : Option Header := none
  deriving Inhabited

namespace ResultSet

def empty : ResultSet := {}

/-- Names the columns of the rows that follow; rows already there keep theirs. -/
def setColumns (s : ResultSet) (names : List String) : ResultSet :=
  { s with header? := some (Header.ofNames names) }

def addRow (s : ResultSet) (values : List Value) : ResultSet :=
  match s.header? with
  | none => s
  | some header => { s with rows := s.rows ++ [⟨header, values⟩], rowsAffected := s.rowsAffected + 1 }

def columns? (s : ResultSet) : Option (List String) := s.header?.map (·.names)

def size (s : ResultSet) : Nat := s.rows.length

def isEmpty (s : ResultSet) : Bool := s.rows.isEmpty

def first? (s : ResultSet) : Option Row := s.rows.head?

/-- Every row mapped, or the error of the first row that does not fit. -/
def deserialize {α : Type} (decode : Json → Except Mapping.Flaw α) (s : ResultSet) :
    Except Failure (List α) :=
  s.rows.mapM (·.deserialize decode)

end ResultSet

end TypedSql
