import TypedSql.Binary64.Shortest

namespace TypedSql.Binary64

structure Layout where
  /-- Least exponent of the leading digit that is still written positionally. -/
  leastPositional : Int
  /-- Greatest exponent of the leading digit that is still written positionally. -/
  greatestPositional : Int
  /-- Written before an exponent that is not negative. -/
  exponentPlus : String
  tie : Tie

def Decimal.significant (d : Decimal) : List Char :=
  let text := (Nat.toDigits 10 d.digits).reverse.dropWhile (· = '0')
  if text.isEmpty then ['0'] else text.reverse

/-- The exponent of the leading digit. -/
def Decimal.leading (d : Decimal) : Int :=
  d.exponent + (Nat.toDigits 10 d.digits).length - 1

/-- Digits around a point, with a zero on either side where no digit stands. -/
def positional (digits : List Char) (leading : Int) : List Char :=
  if leading < 0 then
    "0.".toList ++ List.replicate (-leading - 1).toNat '0' ++ digits
  else
    let whole := leading.toNat + 1
    let rest := digits.drop whole
    digits.take whole ++ List.replicate (whole - digits.length) '0' ++ ['.'] ++
      (if rest.isEmpty then ['0'] else rest)

/-- One digit before the point, and no point after a single digit. -/
def scientific (plus : String) (digits : List Char) (leading : Int) : List Char :=
  let sign := if leading < 0 then ['-'] else plus.toList
  digits.take 1 ++ (if digits.length = 1 then [] else '.' :: digits.drop 1) ++
    ['e'] ++ sign ++ Nat.toDigits 10 leading.natAbs

def layoutMagnitude (layout : Layout) (x : Binary64) : List Char :=
  if x.isZero then "0.0".toList
  else
    let decimal := x.shortest layout.tie
    let digits := decimal.significant
    let leading := decimal.leading
    if layout.leastPositional ≤ leading && leading ≤ layout.greatestPositional then
      positional digits leading
    else scientific layout.exponentPlus digits leading

/-- The text of a number: NaN has no sign, infinity and zero keep theirs. -/
def render (layout : Layout) (x : Binary64) : String :=
  if x.isNaN then "NaN"
  else
    let sign := if x.negative then ['-'] else []
    String.ofList (sign ++ if x.isFinite then layoutMagnitude layout x else "inf".toList)

end TypedSql.Binary64
