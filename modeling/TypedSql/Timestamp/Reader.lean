import TypedSql.Timestamp
import TypedSql.Text.Blank

namespace TypedSql.Timestamp

inductive Flaw where
  | outOfRange
  | invalid
  | tooShort
  | tooLong
  deriving DecidableEq

def Flaw.message : Flaw → String
  | .outOfRange => "input is out of range"
  | .invalid => "input contains invalid characters"
  | .tooShort => "premature end of input"
  | .tooLong => "trailing input"

inductive Field where
  | year
  | month
  | day
  | hour
  | minute
  | second
  deriving DecidableEq

inductive Part where
  | field (field : Field)
  | mark (c : Char)
  | blank
  | fraction

structure Draft where
  year : Int := 0
  month : Nat := 0
  day : Nat := 0
  hour : Nat := 0
  minute : Nat := 0
  second : Nat := 0
  nanosecond : Nat := 0

def isDigit (c : Char) : Bool := '0' ≤ c && c ≤ '9'

def decimal (digits : List Char) : Nat :=
  digits.foldl (fun n c => n * 10 + (c.toNat - 48)) 0

def leadingDigits (width : Option Nat) (cs : List Char) : List Char :=
  match width with
  | some width => (cs.take width).takeWhile isDigit
  | none => cs.takeWhile isDigit

/-- Reads at least one digit; the number must fit 64 bits with a sign. -/
def number (width : Option Nat) (cs : List Char) : Except Flaw (Nat × List Char) :=
  let digits := leadingDigits width cs
  if cs.isEmpty then .error .tooShort
  else if digits.isEmpty then .error .invalid
  else if Nat.pow 2 63 ≤ decimal digits then .error .outOfRange
  else .ok (decimal digits, cs.drop digits.length)

/-- A year with a sign may have any number of digits. -/
def signedYear : List Char → Except Flaw (Int × List Char)
  | '-' :: rest => (number none rest).map fun (n, rest) => (-(n : Int), rest)
  | '+' :: rest => (number none rest).map fun (n, rest) => ((n : Int), rest)
  | cs => (number (some 4) cs).map fun (n, rest) => ((n : Int), rest)

def Field.bounds : Field → Nat × Nat
  | .year => (0, 9999)
  | .month => (1, 12)
  | .day => (1, 31)
  | .hour => (0, 23)
  | .minute => (0, 59)
  | .second => (0, 60)

def Draft.put (d : Draft) (field : Field) (n : Nat) : Draft :=
  match field with
  | .year => { d with year := n }
  | .month => { d with month := n }
  | .day => { d with day := n }
  | .hour => { d with hour := n }
  | .minute => { d with minute := n }
  | .second => { d with second := n }

def readField (d : Draft) (field : Field) (cs : List Char) : Except Flaw (Draft × List Char) := do
  let cs := Text.trimLeft cs
  if field = .year then
    let (year, rest) ← signedYear cs
    if -2147483648 ≤ year && year < 2147483648 then return ({ d with year := year }, rest)
    else throw .outOfRange
  else
    let (n, rest) ← number (some 2) cs
    if field.bounds.1 ≤ n && n ≤ field.bounds.2 then return (d.put field n, rest)
    else throw .outOfRange

/-- Nothing, or a point and digits of which those past the ninth are skipped. -/
def readFraction (d : Draft) : List Char → Except Flaw (Draft × List Char)
  | '.' :: rest => do
    let (n, after) ← number (some 9) rest
    let places := rest.length - after.length
    return ({ d with nanosecond := n * Nat.pow 10 (9 - places) }, after.dropWhile isDigit)
  | cs => .ok (d, cs)

def readPart (d : Draft) (cs : List Char) : Part → Except Flaw (Draft × List Char)
  | .field field => readField d field cs
  | .blank => .ok (d, Text.trimLeft cs)
  | .fraction => readFraction d cs
  | .mark c =>
    match cs with
    | [] => .error .tooShort
    | first :: rest => if first = c then .ok (d, rest) else .error .invalid

def readParts (d : Draft) (cs : List Char) : List Part → Except Flaw (Draft × List Char)
  | [] => .ok (d, cs)
  | part :: parts => do
    let (d, cs) ← readPart d cs part
    readParts d cs parts

def Draft.finish (d : Draft) : Except Flaw Timestamp :=
  let (second, leap) := if d.second = 60 then (59, 1000000000) else (d.second, 0)
  match Date.of? d.year d.month d.day, Clock.of? d.hour d.minute second (d.nanosecond + leap) with
  | some date, some clock => .ok ⟨date, clock⟩
  | _, _ => .error .outOfRange

def read (form : List Part) (text : String) : Except Flaw Timestamp := do
  let (draft, rest) ← readParts {} text.toList form
  if rest.isEmpty then draft.finish else throw .tooLong

/-- A date and a time with a blank between them. -/
def spacedForm : List Part :=
  [.field .year, .mark '-', .field .month, .mark '-', .field .day, .blank,
    .field .hour, .mark ':', .field .minute, .mark ':', .field .second]

/-- A date and a time joined by a `T`, blanks allowed after every number. -/
def joinedForm : List Part :=
  [.field .year, .blank, .mark '-', .field .month, .blank, .mark '-', .field .day, .blank, .mark 'T',
    .field .hour, .blank, .mark ':', .field .minute, .blank, .mark ':', .field .second, .fraction,
    .blank]

/-- A text column as a timestamp: without a fraction, else with one. -/
def ofText? (text : String) : Option Timestamp :=
  match read spacedForm text with
  | .ok t => some t
  | .error _ => (read (spacedForm ++ [.fraction]) text).toOption

end TypedSql.Timestamp
