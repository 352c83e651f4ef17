import TypedSql.Choice

namespace TypedSql

inductive SqlType where
  | ansiString
  | ansiStringFixedLength
  | string
  | stringFixedLength
  | binary
  | boolean
  | byte
  | int16
  | int32
  | int64
  | single
  | double
  | decimal
  | currency
  | date
  | time
  | dateTime
  | dateTime2
  | dateTimeOffset
  | guid
  | xml
  deriving DecidableEq, Inhabited

namespace SqlType

def label : SqlType → String
  | .ansiString => "AnsiString"
  | .ansiStringFixedLength => "AnsiStringFixedLength"
  | .string => "String"
  | .stringFixedLength => "StringFixedLength"
  | .binary => "Binary"
  | .boolean => "Boolean"
  | .byte => "Byte"
  | .int16 => "Int16"
  | .int32 => "Int32"
  | .int64 => "Int64"
  | .single => "Single"
  | .double => "Double"
  | .decimal => "Decimal"
  | .currency => "Currency"
  | .date => "Date"
  | .time => "Time"
  | .dateTime => "DateTime"
  | .dateTime2 => "DateTime2"
  | .dateTimeOffset => "DateTimeOffset"
  | .guid => "Guid"
  | .xml => "Xml"

instance : Choice SqlType where
  all := [.ansiString, .ansiStringFixedLength, .string, .stringFixedLength, .binary, .boolean,
    .byte, .int16, .int32, .int64, .single, .double, .decimal, .currency, .date, .time, .dateTime,
    .dateTime2, .dateTimeOffset, .guid, .xml]
  label := label

def byteLimit : Int := 8000

def wideLimit : Int := 4000

/-- A length that varies: the declared one up to the limit, else without bound. -/
def varying (name : String) (limit : Int) (size : Option Int) : String :=
  match size with
  | some n => if 0 < n && n ≤ limit then s!"{name}({n})" else name ++ "(MAX)"
  | none => name ++ "(MAX)"

/-- A fixed length: the declared one, one where none is, and past the limit the type that varies. -/
def fixed (name overflow : String) (limit : Int) (size : Option Int) : String :=
  match size with
  | some n =>
    if n ≤ 0 then name ++ "(1)" else if n ≤ limit then s!"{name}({n})" else overflow ++ "(MAX)"
  | none => name ++ "(1)"

def declaration (type : SqlType) (size : Option Int) (precision scale : Option Nat) : String :=
  match type with
  | .ansiString => varying "VARCHAR" byteLimit size
  | .ansiStringFixedLength => fixed "CHAR" "VARCHAR" byteLimit size
  | .string => varying "NVARCHAR" wideLimit size
  | .stringFixedLength => fixed "NCHAR" "NVARCHAR" wideLimit size
  | .binary => varying "VARBINARY" byteLimit size
  | .boolean => "BIT"
  | .byte => "TINYINT"
  | .int16 => "SMALLINT"
  | .int32 => "INT"
  | .int64 => "BIGINT"
  | .single => "REAL"
  | .double => "FLOAT"
  | .decimal => s!"DECIMAL({precision.getD 18}, {scale.getD 0})"
  | .currency => "MONEY"
  | .date => "DATE"
  | .time => "TIME"
  | .dateTime => "DATETIME"
  | .dateTime2 => "DATETIME2"
  | .dateTimeOffset => "DATETIMEOFFSET"
  | .guid => "UNIQUEIDENTIFIER"
  | .xml => "XML"

end SqlType

end TypedSql
