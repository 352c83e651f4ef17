import TypedSql.Mapping
import TypedSql.Entries
import TypedSql.Name
import TypedSql.Value

namespace TypedSql

/-- Column names with the position of each name looked up once; of equal names the last counts. -/
structure Header where
  names : List String
  ordinals : List (String × Nat)
  deriving Inhabited

def Header.ofNames (names : List String) : Header :=
  ⟨names, Entries.putAll [] names.zipIdx⟩

structure Row where
  header : Header
  values : List Value
  deriving Inhabited

namespace Row

def ofColumns (names : List String) (values : List Value) : Row :=
  ⟨Header.ofNames names, values⟩

def columns (r : Row) : List String := r.header.names

/-- The position of a column: its exact name first, else the first name equal up to case. -/
def ordinal? (r : Row) (column : String) : Option Nat :=
  match Entries.find? column r.header.ordinals with
  | some ordinal => some ordinal
  | none => r.columns.findIdx? fun name => Name.sameIgnoringCase name column

def getAt? (r : Row) (ordinal : Nat) : Option Value := r.values[ordinal]?

def get? (r : Row) (column : String) : Option Value := (r.ordinal? column).bind r.getAt?

/-- Columns with their values, as far as both go. -/
def pairs (r : Row) : List (String × Value) := r.columns.zip r.values

/-- The object of a row; of equal names the last value stays. -/
def toJson (r : Row) : Json :=
  Json.ofMembers (r.pairs.map fun (name, value) => (name, value.toJson))

def deserialize {α : Type} (decode : Json → Except Mapping.Flaw α) (r : Row) : Except Failure α :=
  match decode r.toJson with
  | .ok a => .ok a
  | .error flaw => .error (.mapping flaw.message)

end Row

end TypedSql
