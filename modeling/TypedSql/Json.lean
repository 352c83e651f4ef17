import TypedSql.Binary64

namespace TypedSql

/-- An integer that a document holds exactly: it fits 64 bits, with or without a sign. -/
structure JsonInteger where
  val : Int
  inRange : -9223372036854775808 ≤ val ∧ val < 18446744073709551616
  deriving DecidableEq

/-- A JSON document; the members of an object are sorted by name, each name once. -/
inductive Json where
  | null
  | bool (value : Bool)
  | integer (value : JsonInteger)
  | double (value : Binary64)
  | string (value : String)
  | array (items : List Json)
  | object (members : List (String × Json))
  deriving Inhabited

def JsonInteger.ofNat64 (n : UInt64) : JsonInteger :=
  ⟨n.toNat, by have := n.toNat_lt; omega⟩

def JsonInteger.ofInt64 (n : Int64) : JsonInteger :=
  ⟨n.toInt, by have := n.le_toInt; have := n.toInt_lt; omega⟩

def JsonInteger.ofByte (n : UInt8) : JsonInteger :=
  ⟨n.toNat, by have := n.toNat_lt; omega⟩

namespace Json

/-- An integer where it fits 64 bits, else the nearest double. -/
def ofInt (n : Int) : Json :=
  if h : -9223372036854775808 ≤ n ∧ n < 18446744073709551616 then .integer ⟨n, h⟩
  else .double (Binary64.ofInt n)

/-- A double as a document has it: only a finite one is a number. -/
def ofBinary64 (x : Binary64) : Json :=
  if x.isFinite then .double x else .null

mutual

/-- Documents are the same when they agree part by part; doubles are compared as numbers. -/
def same : Json → Json → Bool
  | .null, .null => true
  | .bool a, .bool b => a == b
  | .integer a, .integer b => a = b
  | .double a, .double b => a == b
  | .string a, .string b => a == b
  | .array a, .array b => sameItems a b
  | .object a, .object b => sameMembers a b
  | _, _ => false

def sameItems : List Json → List Json → Bool
  | [], [] => true
  | a :: as, b :: bs => same a b && sameItems as bs
  | _, _ => false

def sameMembers : List (String × Json) → List (String × Json) → Bool
  | [], [] => true
  | (n, a) :: as, (m, b) :: bs => n == m && same a b && sameMembers as bs
  | _, _ => false

end

instance : BEq Json := ⟨same⟩

/-- Puts a member at the place of its name, replacing one of the same name. -/
def insertMember (name : String) (value : Json) : List (String × Json) → List (String × Json)
  | [] => [(name, value)]
  | (other, old) :: rest =>
    if name = other then (name, value) :: rest
    else if name < other then (name, value) :: (other, old) :: rest
    else (other, old) :: insertMember name value rest

def sortMembers (members : List (String × Json)) : List (String × Json) :=
  members.foldl (fun sorted member => insertMember member.1 member.2 sorted) []

def ofMembers (members : List (String × Json)) : Json := .object (sortMembers members)

def member? (name : String) : Json → Option Json
  | .object members => (members.find? (·.1 = name)).map (·.2)
  | _ => none

end Json

end TypedSql
