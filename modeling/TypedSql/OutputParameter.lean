import TypedSql.Name
import TypedSql.SqlType

namespace TypedSql

/-- A parameter whose value a procedure hands back; its name is stored without the marker. -/
structure OutputParameter where
  name : String
  type : SqlType
  size : Option Int
  precision : Option Nat
  scale : Option Nat
  deriving DecidableEq, Inhabited

namespace OutputParameter

def withDetails (name : String) (type : SqlType) (size : Option Int) (precision scale : Option Nat) :
    OutputParameter :=
  ⟨Name.bare name, type, size, precision, scale⟩

def new (name : String) (type : SqlType) : OutputParameter :=
  withDetails name type none none none

def withSize (name : String) (type : SqlType) (size : Int) : OutputParameter :=
  withDetails name type (some size) none none

def withPrecision (name : String) (type : SqlType) (precision scale : Nat) : OutputParameter :=
  withDetails name type none (some precision) (some scale)

def declaration (p : OutputParameter) : String :=
  p.type.declaration p.size p.precision p.scale

def variableName (p : OutputParameter) : String := Name.marked p.name

end OutputParameter

end TypedSql
