import TypedSql.Name

namespace TypedSql

/-- A closed list of alternatives, each with a label. -/
class Choice (α : Type) where
  all : List α
  label : α → String

namespace Choice

/-- A label in lower case, its words joined by hyphens; every capital starts a word. -/
def hyphenated (label : String) : String :=
  String.ofList (label.toList.zipIdx.flatMap fun (c, i) =>
    if c.isUpper && i ≠ 0 then ['-', Name.lowerAscii c] else [Name.lowerAscii c])

variable {α : Type} [Choice α]

def name (a : α) : String := hyphenated (label a)

def ofName? (α : Type) [Choice α] (ignoreCase : Bool) (text : String) : Option α :=
  (all (α := α)).find? fun a =>
    if ignoreCase then Name.sameIgnoringCase (name a) text else name a = text

def ofLabel? (α : Type) [Choice α] (text : String) : Option α :=
  (all (α := α)).find? fun a => label a = text

end Choice

end TypedSql
