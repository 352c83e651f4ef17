namespace TypedSql

def isLeapYear (year : Int) : Bool :=
  year % 4 = 0 && (year % 100 ≠ 0 || year % 400 = 0)

def monthLength (year : Int) (month : Nat) : Nat :=
  if month = 2 then if isLeapYear year then 29 else 28
  else if month = 4 || month = 6 || month = 9 || month = 11 then 30
  else 31

structure Date where
  year : Int
  month : Nat
  day : Nat
  yearInRange : -262143 ≤ year ∧ year ≤ 262142
  monthInRange : 1 ≤ month ∧ month ≤ 12
  dayInRange : 1 ≤ day ∧ day ≤ monthLength year month
  deriving DecidableEq

/-- A time of day. A nanosecond past the first billion is in the leap second behind the second, whichever second of
the minute that is. -/
structure Clock where
  hour : Nat
  minute : Nat
  second : Nat
  nanosecond : Nat
  hourInRange : hour < 24
  minuteInRange : minute < 60
  secondInRange : second < 60
  nanosecondInRange : nanosecond < 2000000000
  deriving DecidableEq

structure Timestamp where
  date : Date
  clock : Clock
  deriving DecidableEq

def Date.of? (year : Int) (month day : Nat) : Option Date :=
  if hy : -262143 ≤ year ∧ year ≤ 262142 then
    if hm : 1 ≤ month ∧ month ≤ 12 then
      if hd : 1 ≤ day ∧ day ≤ monthLength year month then some ⟨year, month, day, hy, hm, hd⟩
      else none
    else none
  else none

/-- The time that four numbers give; they give no leap second but the one behind the 59th second. -/
def Clock.of? (hour minute second nanosecond : Nat) : Option Clock :=
  if h : hour < 24 ∧ minute < 60 ∧ second < 60 ∧
      (nanosecond < 1000000000 ∨ second = 59 ∧ nanosecond < 2000000000) then
    some ⟨hour, minute, second, nanosecond, h.1, h.2.1, h.2.2.1, by omega⟩
  else none

def Clock.midnight : Clock :=
  ⟨0, 0, 0, 0, by decide, by decide, by decide, by decide⟩

def daysBeforeYear (year : Int) : Int :=
  let past := year - 1
  365 * past + past / 4 - past / 100 + past / 400

def daysBeforeMonth (year : Int) (month : Nat) : Nat :=
  (List.range' 1 (month - 1)).foldl (fun days m => days + monthLength year m) 0

def Date.toDays (d : Date) : Int :=
  daysBeforeYear d.year + daysBeforeMonth d.year d.month + (d.day - 1 : Nat)

/-- The year that holds a day: the mean year gives it up to one. -/
def yearOfDay (days : Int) : Int :=
  let guess := days * 400 / 146097 + 1
  if days < daysBeforeYear guess then guess - 1
  else if daysBeforeYear (guess + 1) ≤ days then guess + 1
  else guess

def monthOfDay (year : Int) (dayOfYear : Nat) : Nat :=
  ((List.range' 2 11).filter fun month => daysBeforeMonth year month ≤ dayOfYear).length + 1

def Date.ofDays? (days : Int) : Option Date :=
  let year := yearOfDay days
  let dayOfYear := (days - daysBeforeYear year).toNat
  let month := monthOfDay year dayOfYear
  Date.of? year month (dayOfYear - daysBeforeMonth year month + 1)

def Clock.seconds (c : Clock) : Nat := (c.hour * 60 + c.minute) * 60 + c.second

def Clock.ofSeconds? (seconds nanosecond : Nat) : Option Clock :=
  Clock.of? (seconds / 3600) (seconds / 60 % 60) (seconds % 60) nanosecond

def pad (width n : Nat) : List Char :=
  let digits := Nat.toDigits 10 n
  List.replicate (width - digits.length) '0' ++ digits

/-- Four digits; a year that needs more, or lies before year 0, carries its sign. -/
def renderYear (year : Int) : List Char :=
  if 0 ≤ year && year ≤ 9999 then pad 4 year.toNat
  else (if year < 0 then '-' else '+') :: pad 4 year.natAbs

/-- The fraction of a second in the fewest of 0, 3, 6 or 9 digits that give it exactly. -/
def renderFraction (nanosecond : Nat) : List Char :=
  let n := nanosecond % 1000000000
  if n = 0 then []
  else if n % 1000000 = 0 then '.' :: pad 3 (n / 1000000)
  else if n % 1000 = 0 then '.' :: pad 6 (n / 1000)
  else '.' :: pad 9 n

def Date.render (d : Date) : List Char :=
  renderYear d.year ++ '-' :: pad 2 d.month ++ '-' :: pad 2 d.day

/-- The second as it is written: a leap second counts as the next, which is the 60th only behind the 59th. -/
def Clock.writtenSecond (c : Clock) : Nat := c.second + c.nanosecond / 1000000000

def Clock.render (c : Clock) : List Char :=
  pad 2 c.hour ++ ':' :: pad 2 c.minute ++ ':' :: pad 2 c.writtenSecond ++ renderFraction c.nanosecond

def Timestamp.render (t : Timestamp) : String :=
  String.ofList (t.date.render ++ 'T' :: t.clock.render)

end TypedSql
