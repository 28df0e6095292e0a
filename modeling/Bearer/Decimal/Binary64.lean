/-! Binary floating-point numbers of 64 bits as exact values, a significand times a power of two, and
the rounding of a ratio to the nearest of them, a tie going to the even significand. -/

namespace Bearer

inductive Binary64
  /-- The number `± m * 2 ^ q`. -/
  | finite (negative : Bool) (m : Nat) (q : Int)
  | infinite (negative : Bool)
  | nan
  deriving DecidableEq, Repr

namespace Binary64

/-- The quotient rounded to the nearest whole number, a tie to the even one. -/
def divEven (num den : Nat) : Nat :=
  let n := num / den
  let twice := 2 * (num % den)
  if twice < den then n
  else if den < twice then n + 1
  else if n % 2 = 0 then n else n + 1

/-- `num / den / 2 ^ q` rounded. -/
def scaled (num den : Nat) (q : Int) : Nat :=
  if 0 ≤ q then divEven num (den * Nat.pow 2 q.toNat) else divEven (num * Nat.pow 2 (-q).toNat) den

/-- The largest significand. -/
def mostSignificand : Nat := 9007199254740991

/-- The nearest number to a ratio. The exponent is the least that leaves 53 bits or fewer, and not
below that of the least positive number. -/
def ofRatio (negative : Bool) (num den : Nat) : Binary64 :=
  if num = 0 then finite negative 0 (-1074)
  else
    let guess : Int := (Nat.log2 num : Int) - Nat.log2 den - 53
    let low := max guess (-1074)
    let q := if scaled num den low ≤ mostSignificand then low
      else if scaled num den (low + 1) ≤ mostSignificand then low + 1 else low + 2
    let m := scaled num den q
    if 971 < q then infinite negative else finite negative m q

/-- The nearest number to `± digits * 10 ^ exponent`. -/
def ofDecimal (negative : Bool) (digits : Nat) (exponent : Int) : Binary64 :=
  let size : Int := (toString digits).length
  if digits = 0 then finite negative 0 (-1074)
  else if 310 < exponent + size then infinite negative
  else if exponent + size < -330 then finite negative 0 (-1074)
  else if 0 ≤ exponent then ofRatio negative (digits * Nat.pow 10 exponent.toNat) 1
  else ofRatio negative digits (Nat.pow 10 (-exponent).toNat)

/-- The nearest whole number, a half going away from zero. -/
def round : Binary64 → Option Int
  | finite negative m q =>
    let size : Nat := if 0 ≤ q then m * Nat.pow 2 q.toNat else (2 * m / Nat.pow 2 (-q).toNat + 1) / 2
    some (if negative then -(size : Int) else size)
  | infinite _ => none
  | nan => none

def isZero : Binary64 → Bool
  | finite _ m _ => m == 0
  | _ => false

end Binary64

end Bearer
