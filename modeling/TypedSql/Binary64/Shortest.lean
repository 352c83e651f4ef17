import TypedSql.Binary64

namespace TypedSql.Binary64

structure Decimal where
  digits : Nat
  exponent : Int
  deriving DecidableEq, Inhabited

inductive Tie where
  | even
  | up
  deriving DecidableEq

/-- The reals that round to a finite nonzero double, in quarters of the least positive magnitude;
the ends belong to it when the significand is even. -/
structure Basin where
  low : Nat
  middle : Nat
  high : Nat
  closed : Bool

/-- Below a power of two the neighbour is half as far, save at the foot of the normal range. -/
def basin (x : Binary64) : Basin :=
  let unit := Nat.pow 2 x.shift
  let below := if x.fraction = 0 && 1 < x.exponentField then unit else 2 * unit
  { low := 4 * x.units - below
    middle := 4 * x.units
    high := 4 * x.units + 2 * unit
    closed := x.significand % 2 = 0 }

def Basin.holds (b : Basin) (num den : Nat) : Bool :=
  if b.closed then b.low * den ≤ num && num ≤ b.high * den
  else b.low * den < num && num < b.high * den

/-- A power of ten as a quotient counted in quarters of the least positive magnitude. -/
def gridStep (exponent : Int) : Nat × Nat :=
  (Nat.pow 2 1076 * Nat.pow 10 exponent.toNat, Nat.pow 10 (-exponent).toNat)

/-- The point of one decimal grid nearest to the middle of a basin, if any point lies in it. -/
def Basin.onGrid (b : Basin) (tie : Tie) (exponent : Int) : Option Nat :=
  let step := gridStep exponent
  let lower := b.middle * step.2 / step.1
  let upper := lower + 1
  let lowerHit := b.holds (lower * step.1) step.2
  let upperHit := b.holds (upper * step.1) step.2
  let fromLower := 2 * (b.middle * step.2 - lower * step.1)
  if lowerHit && upperHit then
    if fromLower < step.1 then some lower
    else if step.1 < fromLower then some upper
    else match tie with
      | .up => some upper
      | .even => some (if lower % 2 = 0 then lower else upper)
  else if lowerHit then some lower
  else if upperHit then some upper
  else none

/-- Tries ever finer grids, and names the magnitude itself when none of them has a point. -/
def Basin.firstHit (b : Basin) (tie : Tie) (top : Int) : List Nat → Decimal
  | [] => ⟨b.middle * Nat.pow 5 1076, -1076⟩
  | n :: rest =>
    match b.onGrid tie (top - n) with
    | some digits => ⟨digits, top - n⟩
    | none => b.firstHit tie top rest

/-- The position of the leading decimal digit: the magnitude is below this power of ten. -/
def leadingExponent (x : Binary64) : Int :=
  ((Nat.toDigits 10 (x.units * Nat.pow 10 400 / Nat.pow 2 1074)).length : Int) - 400

/-- The fewest decimal digits that read back as the number, and of these the nearest to it. -/
def shortest (tie : Tie) (x : Binary64) : Decimal :=
  x.basin.firstHit tie x.leadingExponent (List.range' 1 17)

end TypedSql.Binary64
