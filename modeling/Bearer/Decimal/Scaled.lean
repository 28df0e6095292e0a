import Bearer.Decimal.Binary64
/-! Reading decimals in binary arithmetic: as many digits as 64 bits hold make a number, which is multiplied
or divided by a power of ten. Each step rounds, so the result can be a neighbour of the nearest number. -/

namespace Bearer.Binary64

/-- `± m * 2 ^ q` rounded, `m` being a ratio. -/
def ofScaled (negative : Bool) (num den : Nat) (q : Int) : Binary64 :=
  if 0 ≤ q then ofRatio negative (num * Nat.pow 2 q.toNat) den
  else ofRatio negative num (den * Nat.pow 2 (-q).toNat)

def mul : Binary64 → Binary64 → Binary64
  | finite s m q, finite t n r => ofScaled (s != t) (m * n) 1 (q + r)
  | _, _ => nan

def div : Binary64 → Binary64 → Binary64
  | finite s m q, finite t n r => if n = 0 then nan else ofScaled (s != t) m n (q - r)
  | _, _ => nan

def ofNat (n : Nat) : Binary64 := ofRatio false n 1

/-- The nearest number to a power of ten. -/
def powerOfTen (e : Nat) : Binary64 := ofDecimal false 1 e

def isFinite : Binary64 → Bool
  | finite _ _ _ => true
  | _ => false

/-- The exponent of the largest power of ten. -/
def mostPower : Nat := 308

/-- Brings the exponent into the range of the powers first; three such steps reach zero. -/
def scale? : Nat → Binary64 → Int → Option Binary64
  | 0, f, _ => some f
  | steps + 1, f, e =>
    if e.natAbs ≤ mostPower then
      let p := powerOfTen e.natAbs
      if 0 ≤ e then some (f.mul p) |>.filter isFinite else some (f.div p)
    else if f.isZero then some f
    else if 0 ≤ e then none
    else scale? steps (f.div (powerOfTen mostPower)) (e + mostPower)

/-- Adds digits as long as 64 bits hold the number; how many were added. -/
def gather (n count : Nat) : List Nat → Nat × Nat
  | [] => (n, count)
  | d :: ds => if 10 * n + d < 18446744073709551616 then gather (10 * n + d) (count + 1) ds else (n, count)

def negated : Binary64 → Binary64
  | finite s m q => finite (!s) m q
  | infinite s => infinite (!s)
  | nan => nan

/-- The number that digits before and after a point and a power of ten make, `none` if it is too large. -/
def ofDigits? (negative : Bool) (whole places : List Nat) (exponent : Int) : Option Binary64 :=
  let (n, used) := gather 0 0 whole
  let (m, added) := gather n 0 places
  (scale? 5 (ofNat m) (exponent + (whole.length - used : Nat) - added)).map fun f =>
    if negative then negated f else f

end Bearer.Binary64
