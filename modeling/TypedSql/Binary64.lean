namespace TypedSql

/-- A double-precision number, held as its 64 bits: a sign, eleven exponent bits, 52 fraction bits. -/
structure Binary64 where
  bits : UInt64
  deriving DecidableEq, Inhabited

namespace Binary64

def negative (x : Binary64) : Bool := x.bits.toNat / Nat.pow 2 63 = 1

def exponentField (x : Binary64) : Nat := x.bits.toNat / Nat.pow 2 52 % Nat.pow 2 11

def fraction (x : Binary64) : Nat := x.bits.toNat % Nat.pow 2 52

def isFinite (x : Binary64) : Bool := x.exponentField ≠ 2047

def isNaN (x : Binary64) : Bool := x.exponentField = 2047 && x.fraction ≠ 0

def isZero (x : Binary64) : Bool := x.bits.toNat % Nat.pow 2 63 = 0

/-- The integer `m` of a finite magnitude `m * 2 ^ shift / 2 ^ 1074`. -/
def significand (x : Binary64) : Nat :=
  if x.exponentField = 0 then x.fraction else x.fraction + Nat.pow 2 52

def shift (x : Binary64) : Nat := x.exponentField - 1

/-- A finite magnitude counted in the least positive one, `2 ^ -1074`. -/
def units (x : Binary64) : Nat := x.significand * Nat.pow 2 x.shift

/-- Two numbers are equal when their bits agree or both are zero; a NaN equals nothing. -/
def same (x y : Binary64) : Bool :=
  !x.isNaN && !y.isNaN && (x.bits == y.bits || x.isZero && y.isZero)

instance : BEq Binary64 := ⟨same⟩

def roundHalfEven (num den : Nat) : Nat :=
  let floor := num / den
  let rest := num % den
  if 2 * rest < den then floor
  else if den < 2 * rest then floor + 1
  else floor + floor % 2

/-- Exponent and fraction fields of the magnitude nearest to `num / den`, overflow giving infinity. -/
def magnitude (num den : Nat) : Nat :=
  let scaled := num * Nat.pow 2 1074
  let shift := Nat.log2 (scaled / den) - 52
  min (shift * Nat.pow 2 52 + roundHalfEven scaled (den * Nat.pow 2 shift)) (2047 * Nat.pow 2 52)

def ofFields (negative : Bool) (magnitude : Nat) : Binary64 :=
  ⟨UInt64.ofNat (magnitude + if negative then Nat.pow 2 63 else 0)⟩

/-- The double nearest to a signed quotient, a half going to the even neighbour. -/
def ofRatio (negative : Bool) (num den : Nat) : Binary64 :=
  ofFields negative (magnitude num den)

def ofInt (n : Int) : Binary64 := ofRatio (n < 0) n.natAbs 1

def ofDecimal (negative : Bool) (digits : Nat) (exponent : Int) : Binary64 :=
  ofRatio negative (digits * Nat.pow 10 exponent.toNat) (Nat.pow 10 (-exponent).toNat)

def infinity (negative : Bool) : Binary64 := ofFields negative (2047 * Nat.pow 2 52)

def zero (negative : Bool) : Binary64 := ofFields negative 0

/-- The quiet NaN that an operation without a result gives. -/
def invalid : Binary64 := ofFields true (2047 * Nat.pow 2 52 + Nat.pow 2 51)

def mul (x y : Binary64) : Binary64 :=
  let negative := x.negative != y.negative
  if x.isNaN || y.isNaN then invalid
  else if !x.isFinite || !y.isFinite then
    if x.isZero || y.isZero then invalid else infinity negative
  else ofRatio negative (x.units * y.units) (Nat.pow 2 2148)

def div (x y : Binary64) : Binary64 :=
  let negative := x.negative != y.negative
  if x.isNaN || y.isNaN then invalid
  else if !x.isFinite then if y.isFinite then infinity negative else invalid
  else if !y.isFinite then zero negative
  else if y.isZero then if x.isZero then invalid else infinity negative
  else ofRatio negative x.units y.units

instance : Mul Binary64 := ⟨mul⟩

instance : Div Binary64 := ⟨div⟩

/-- Repeated squaring, the result collected from the low bit of the exponent up. -/
def powerInto (result base : Binary64) (n : Nat) : Binary64 :=
  let result := if n % 2 = 1 then result * base else result
  if n / 2 = 0 then result else powerInto result (base * base) (n / 2)
termination_by n

def power (base : Binary64) (n : Nat) : Binary64 := powerInto (ofInt 1) base n

/-- A single-precision number widened: every one is a double, and a NaN comes out quiet. -/
def ofBinary32 (bits : UInt32) : Binary64 :=
  let negative := bits.toNat / Nat.pow 2 31 = 1
  let exponentField := bits.toNat / Nat.pow 2 23 % Nat.pow 2 8
  let fraction := bits.toNat % Nat.pow 2 23
  if exponentField = 255 then
    if fraction = 0 then infinity negative
    else ofFields negative (2047 * Nat.pow 2 52 + Nat.pow 2 51 + fraction % Nat.pow 2 22 * Nat.pow 2 29)
  else if exponentField = 0 then ofRatio negative fraction (Nat.pow 2 149)
  else ofRatio negative ((fraction + Nat.pow 2 23) * Nat.pow 2 (exponentField - 1)) (Nat.pow 2 149)

end Binary64

end TypedSql
