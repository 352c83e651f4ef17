import TypedSql.Entries
import TypedSql.Failure
import TypedSql.Json.Printer
import TypedSql.Name
import TypedSql.Value

namespace TypedSql

/-- Named values in the order in which their names were first bound. -/
structure Parameters where
  entries : List (String × Value) := []
  distinct : (entries.map (·.1)).Nodup := by exact .nil
  marked : ∀ entry ∈ entries, Name.marked entry.1 = entry.1 := by simp

namespace Parameters

def empty : Parameters := {}

instance : Inhabited Parameters := ⟨empty⟩

def bind (p : Parameters) (name : String) (value : Value) : Parameters where
  entries := Entries.put (Name.marked name) value p.entries
  distinct := Entries.nodup_put p.distinct
  marked entry h := by
    rcases Entries.mem_put h with rfl | old
    · exact Name.marked_marked name
    · exact p.marked entry old

def ofList (entries : List (String × Value)) : Parameters :=
  entries.foldl (fun p entry => p.bind entry.1 entry.2) empty

def merge (p other : Parameters) : Parameters where
  entries := Entries.putAll p.entries other.entries
  distinct := Entries.nodup_putAll p.distinct
  marked entry h := (Entries.mem_putAll h).elim (other.marked entry) (p.marked entry)

/-- Whether a name is bound here to a value that is not the same. -/
def clashes (p : Parameters) (entry : String × Value) : Bool :=
  (Entries.find? entry.1 p.entries).any fun bound => !(bound == entry.2)

/-- Merges unless a name is bound on both sides to different values. -/
def mergeDisjoint (p other : Parameters) : Except Failure Parameters :=
  match other.entries.find? p.clashes with
  | some entry => .error (.boundDifferently entry.1)
  | none => .ok (p.merge other)

/-- The members of an object, bound in the order of their names. -/
def ofJson : Json → Except Failure Parameters
  | .object members => .ok (ofList (members.map fun member => (member.1, Value.ofJson member.2)))
  | document => .error (.notNamedFields document.render)

def get? (p : Parameters) (name : String) : Option Value :=
  Entries.find? (Name.marked name) p.entries

def contains (p : Parameters) (name : String) : Bool := (p.get? name).isSome

def size (p : Parameters) : Nat := p.entries.length

def isEmpty (p : Parameters) : Bool := p.entries.isEmpty

def names (p : Parameters) : List String := p.entries.map (·.1)

def values (p : Parameters) : List Value := p.entries.map (·.2)

/-- The same names bound to the same values, in any order. -/
def same (p q : Parameters) : Bool :=
  p.size = q.size &&
    p.entries.all fun entry => (Entries.find? entry.1 q.entries).any fun value => entry.2 == value

instance : BEq Parameters := ⟨same⟩

end Parameters

end TypedSql
