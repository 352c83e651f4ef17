import TypedSql.Failure
import TypedSql.Name
import TypedSql.Value

namespace TypedSql.SqlServer

inductive Cell where
  | null
  | integer (value : Int64)
  | double (value : Binary64)
  | money (tenThousandths : Int)
  | numeric (unscaled : Int) (scale : Nat)
  | bit (value : Bool)
  | text (value : String)
  | guid (value : String)
  | binary (bytes : List UInt8)
  | date (days : Nat)
  | smallDateTime (days minutes : Nat)
  | dateTime (days ticks : Nat)
  | time (units scale : Nat)
  | dateTime2 (days units scale : Nat)
  | dateTimeOffset (days units scale : Nat) (offset : Int)

namespace Cell

def daysBefore1900 : Int := 693595

def dayNanoseconds : Int := 86400 * 1000000000

/-- The moment that many nanoseconds after the midnight that began a day. -/
def moment? (days nanoseconds : Int) : Option Timestamp := do
  let date ← Date.ofDays? (days + nanoseconds / dayNanoseconds)
  let rest := (nanoseconds % dayNanoseconds).toNat
  let clock ← Clock.ofSeconds? (rest / 1000000000) (rest % 1000000000)
  return ⟨date, clock⟩

def ofMoment (days nanoseconds : Int) : Except Failure Value :=
  match moment? days nanoseconds with
  | some t => .ok (.timestamp t)
  | none => .error (.server "Protocol error: date is out of range")

def nanoseconds (units scale : Nat) : Nat := units * Nat.pow 10 (9 - scale)

def tenTo (n : Nat) : Binary64 := (Binary64.ofInt 10).power n

/-- The value of a cell; only moments out of range have none. -/
def toValue : Cell → Except Failure Value
  | .null => .ok .null
  | .integer n => .ok (.int n)
  | .double x => .ok (.float x)
  | .money n => .ok (.float (Binary64.ofInt n / tenTo 4))
  | .numeric n scale => .ok (.float (Binary64.ofInt n / tenTo scale))
  | .bit b => .ok (.bool b)
  | .text s => .ok (.text s)
  | .guid s => .ok (.text (String.ofList (s.toList.map Name.lowerAscii)))
  | .binary content => .ok (.blob content)
  | .date days => ofMoment days 0
  | .smallDateTime days minutes =>
    if minutes < 1440 then ofMoment (daysBefore1900 + days) (minutes * 60 * 1000000000)
    else .error (.server
      s!"Protocol error: smalldatetime seconds-of-day {minutes * 60} is out of range")
  | .dateTime days ticks => ofMoment (daysBefore1900 + days) (ticks * 1000000000 / 300 : Nat)
  | .time units scale =>
    match moment? 0 (nanoseconds units scale) with
    | some t => .ok (.text (String.ofList t.clock.render))
    | none => .error (.server "Protocol error: time is out of range")
  | .dateTime2 days units scale => ofMoment days (nanoseconds units scale)
  | .dateTimeOffset days units scale offset =>
    if offset.natAbs ≤ 840 then ofMoment days (nanoseconds units scale - offset * 60 * 1000000000)
    else .error (.server
      s!"Protocol error: datetimeoffset offset {offset} minutes is outside the valid -14:00..=+14:00 range")

end Cell

end TypedSql.SqlServer
