import TypedSql.Name

namespace TypedSql.Placeholder

/-- Regions in which the doubled closing character stands for itself. -/
inductive Quote where
  | single
  | double
  | bracket
  deriving DecidableEq

def Quote.closing : Quote → UInt8
  | .single => '\''.toUInt8
  | .double => '"'.toUInt8
  | .bracket => ']'.toUInt8

/-- Where the scan of a statement stands. Comments nest; how deep is counted in 32 bits. -/
inductive Region where
  | plain
  | quoted (quote : Quote)
  | lineComment
  | blockComment (depth : UInt32)
  deriving DecidableEq

def isAsciiWord (b : UInt8) : Bool :=
  ('a'.toUInt8 ≤ b && b ≤ 'z'.toUInt8) || ('A'.toUInt8 ≤ b && b ≤ 'Z'.toUInt8) ||
    ('0'.toUInt8 ≤ b && b ≤ '9'.toUInt8) || b = '_'.toUInt8

/-- A byte that a variable's name may hold after its marker; beyond ASCII every one may. -/
def isIdentifier (b : UInt8) : Bool :=
  isAsciiWord b || b = '#'.toUInt8 || b = '$'.toUInt8 || b = '@'.toUInt8 || 128 ≤ b

/-- A marker right behind one of these belongs to what precedes it. -/
def gluesMarker (b : UInt8) : Bool := isAsciiWord b || b = '@'.toUInt8 || b = '.'.toUInt8

def byte? (sql : String) (index : Nat) : Option UInt8 :=
  if h : index < sql.utf8ByteSize then some (sql.getUTF8Byte ⟨index⟩ h) else none

/-- The text between two places; a place inside a character bounds none. -/
def slice (sql : String) (first last : Nat) : String :=
  if h : String.Pos.Raw.IsValid sql ⟨first⟩ ∧ String.Pos.Raw.IsValid sql ⟨last⟩ then
    sql.extract (sql.pos ⟨first⟩ h.1) (sql.pos ⟨last⟩ h.2)
  else ""

/-- Two characters of ASCII stand side by side at a place. -/
def pairAt (sql : String) (index : Nat) (first second : Char) : Bool :=
  byte? sql index = some first.toUInt8 && byte? sql (index + 1) = some second.toUInt8

/-- What stands before a place takes a marker there for its own. -/
def followsIdentifier (sql : String) (index : Nat) : Bool :=
  0 < index && (byte? sql (index - 1)).any gluesMarker

/-- The first place from a given one on that no identifier reaches past. -/
def identifierEnd (sql : String) (index : Nat) : Nat :=
  if index < sql.utf8ByteSize ∧ (byte? sql index).any isIdentifier then
    identifierEnd sql (index + 1)
  else index
termination_by sql.utf8ByteSize - index
decreasing_by omega

/-- Where the identifier ends that starts at a place, if one does. -/
def identifierEnd? (sql : String) (index : Nat) : Option Nat :=
  if index < identifierEnd sql index then some (identifierEnd sql index) else none

/-- The position, from 1, of the first bound name that a variable spells up to the case of ASCII letters. -/
def position? (bound : List String) (variableName : String) : Option Nat :=
  (bound.findIdx? (Name.sameIgnoringCase · variableName)).map (· + 1)

def positional (position : Nat) : String := s!"@P{position}"

/-- A scan at work: the region it is in, the byte it has come to, and the copy it makes of what it has
left behind. There is no copy before the first replacement; from then on it reaches up to `copied`. -/
structure Scan where
  region : Region := .plain
  index : Nat := 0
  copied : Nat := 0
  output? : Option String := none

namespace Scan

variable (sql : String) (bound : List String)

/-- Puts the position of a bound variable in its place; the variable ends at `last`. -/
def replace (s : Scan) (position last : Nat) : Scan :=
  { s with
    output? := some (s.output?.getD "" ++ slice sql s.copied s.index ++ positional position)
    copied := last }

/-- Replaces the variable that ends at `last` if it is bound, and leaves it behind in any case. -/
def pastVariable (s : Scan) (last : Nat) : Scan :=
  let replaced :=
    match position? bound (slice sql s.index last) with
    | some position => s.replace sql position last
    | none => s
  { replaced with index := last - 1 }

def plainStep (s : Scan) (b : UInt8) : Scan :=
  if b = '\''.toUInt8 then { s with region := .quoted .single }
  else if b = '"'.toUInt8 then { s with region := .quoted .double }
  else if b = '['.toUInt8 then { s with region := .quoted .bracket }
  else if pairAt sql s.index '-' '-' then { s with region := .lineComment }
  else if pairAt sql s.index '/' '*' then { s with region := .blockComment 1, index := s.index + 1 }
  else if pairAt sql s.index '@' '@' then
    { s with index := (identifierEnd? sql (s.index + 2)).getD (s.index + 2) - 1 }
  else if b = '@'.toUInt8 && !followsIdentifier sql s.index then
    match identifierEnd? sql (s.index + 1) with
    | some last => s.pastVariable sql bound last
    | none => s
  else s

def quotedStep (quote : Quote) (s : Scan) (b : UInt8) : Scan :=
  if b = quote.closing then
    if byte? sql (s.index + 1) = some quote.closing then { s with index := s.index + 1 }
    else { s with region := .plain }
  else s

def lineCommentStep (s : Scan) (b : UInt8) : Scan :=
  if b = '\n'.toUInt8 then { s with region := .plain } else s

def blockCommentStep (depth : UInt32) (s : Scan) : Scan :=
  if pairAt sql s.index '/' '*' then
    { s with region := .blockComment (depth + 1), index := s.index + 1 }
  else if pairAt sql s.index '*' '/' then
    { s with
      region := if depth = 1 then .plain else .blockComment (depth - 1)
      index := s.index + 1 }
  else s

/-- One round of the scan over the byte it has come to. -/
def step (s : Scan) (b : UInt8) : Scan :=
  let stepped :=
    match s.region with
    | .plain => s.plainStep sql bound b
    | .quoted quote => s.quotedStep sql quote b
    | .lineComment => s.lineCommentStep b
    | .blockComment depth => s.blockCommentStep sql depth
  { stepped with index := stepped.index + 1 }

end Scan

theorem lt_of_identifierEnd? {sql : String} {index last : Nat}
    (h : identifierEnd? sql index = some last) : index < last := by
  unfold identifierEnd? at h
  split at h
  next hlt => exact Option.some.inj h ▸ hlt
  next => simp at h

namespace Scan

variable {sql : String} {bound : List String}

theorem le_index_plainStep (s : Scan) (b : UInt8) : s.index ≤ (s.plainStep sql bound b).index := by
  unfold plainStep
  repeat' split
  all_goals try exact Nat.le_refl _
  next => exact Nat.le_succ _
  next =>
    cases h : identifierEnd? sql (s.index + 2) with
    | none => simp only [Option.getD_none]; omega
    | some last =>
      have := lt_of_identifierEnd? h
      simp only [Option.getD_some]
      omega
  next last h =>
    have := lt_of_identifierEnd? h
    simp only [pastVariable]
    omega

theorem index_lt_step (sql : String) (bound : List String) (s : Scan) (b : UInt8) :
    s.index < (s.step sql bound b).index := by
  unfold step
  apply Nat.lt_succ_of_le
  cases s.region with
  | plain => exact s.le_index_plainStep b
  | quoted quote =>
    simp only [quotedStep]
    repeat' split
    all_goals simp
  | lineComment =>
    simp only [lineCommentStep]
    split
    all_goals exact Nat.le_refl _
  | blockComment depth =>
    simp only [blockCommentStep]
    repeat' split
    all_goals simp

def run (sql : String) (bound : List String) (s : Scan) : Scan :=
  if h : s.index < sql.utf8ByteSize then
    run sql bound (s.step sql bound (sql.getUTF8Byte ⟨s.index⟩ h))
  else s
termination_by sql.utf8ByteSize - s.index
decreasing_by
  have hstep := index_lt_step sql bound s (sql.getUTF8Byte ⟨s.index⟩ h)
  omega

end Scan

/-- The statement with every bound variable replaced by its position, or nothing if none occurs. -/
def substitute? (sql : String) (bound : List String) : Option String :=
  if bound.isEmpty then none
  else
    let s := Scan.run sql bound {}
    s.output?.map (· ++ slice sql s.copied sql.utf8ByteSize)

def substitute (sql : String) (bound : List String) : String := (substitute? sql bound).getD sql

end TypedSql.Placeholder
