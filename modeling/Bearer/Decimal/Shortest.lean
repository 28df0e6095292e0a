import Bearer.Decimal.Binary64
/-! The fewest decimal digits that read back as a binary number. The decimals that round to `m * 2 ^ q`
fill an interval, its ends included when `m` is even. The first grid of decimals with a point in it
gives the digits, and of two such points the nearer. -/

namespace Bearer.Binary64

/-- The interval around a positive number, in units of `2 ^ (q - 2)`. Below a power of two the
numbers lie twice as dense. -/
def interval (m : Nat) (q : Int) : Nat × Nat :=
  (if m = 4503599627370496 ∧ -1074 < q then 4 * m - 1 else 4 * m - 2, 4 * m + 2)

/-- The ratio of `n * 2 ^ (q - 2)` and `10 ^ e`. -/
def ratio (n : Nat) (q e : Int) : Nat × Nat :=
  let two := q - 2
  (n * Nat.pow 2 two.toNat * Nat.pow 10 (-e).toNat, Nat.pow 2 (-two).toNat * Nat.pow 10 e.toNat)

def within (m : Nat) (q : Int) (k : Nat) (e : Int) : Bool :=
  let (low, high) := interval m q
  let (ln, ld) := ratio low q e
  let (hn, hd) := ratio high q e
  if m % 2 = 0 then ln ≤ k * ld && k * hd ≤ hn else ln < k * ld && k * hd < hn

/-- The point of the grid of multiples of `10 ^ e` that lies in the interval and is nearest. -/
def gridPoint? (m : Nat) (q e : Int) : Option Nat :=
  let (n, d) := ratio (4 * m) q e
  let k := n / d
  let below := within m q k e
  let above := within m q (k + 1) e
  if below && above then some (if 2 * (n % d) < d || (2 * (n % d) == d && k % 2 == 0) then k else k + 1)
  else if below then some k
  else if above then some (k + 1)
  else none

/-- The exponent of the leading decimal digit. -/
def leading (m : Nat) (q : Int) : Int :=
  let guess : Int := ((Nat.log2 m : Int) + q) * 30103 / 100000 - 1
  let reaches (e : Int) : Bool := let (n, d) := ratio (4 * m) q e; d ≤ n
  if reaches (guess + 2) then guess + 2 else if reaches (guess + 1) then guess + 1 else guess

/-- Tries the grids from coarse to fine; seventeen digits always suffice. -/
def shortestFrom (m : Nat) (q : Int) (top : Int) : Nat → Nat → Nat × Int
  | _, 0 => (m, 0)
  | n, tries + 1 =>
    match gridPoint? m q (top - n) with
    | some k => (k, top - n)
    | none => shortestFrom m q top (n + 1) tries

/-- Digits without zeros at the end, and the power of ten that scales them. -/
def trimZeros (k : Nat) (e : Int) : Nat → Nat × Int
  | 0 => (k, e)
  | tries + 1 => if k ≠ 0 ∧ k % 10 = 0 then trimZeros (k / 10) (e + 1) tries else (k, e)

def shortest (m : Nat) (q : Int) : Nat × Int :=
  if m = 0 then (0, 0)
  else
    let (k, e) := shortestFrom m q (leading m q) 0 18
    trimZeros k e 400

/-- Positional text: all digits are written out and there is no exponent. -/
def plainText : Binary64 → String
  | nan => "NaN"
  | infinite negative => if negative then "-inf" else "inf"
  | finite negative m q =>
    let (k, e) := shortest m q
    let digits := toString k
    let body :=
      if 0 ≤ e then digits ++ String.ofList (List.replicate e.toNat '0')
      else
        let places := (-e).toNat
        let full := String.ofList (List.replicate (places + 1 - digits.length) '0') ++ digits
        String.ofList (full.toList.take (full.length - places)) ++ "."
          ++ String.ofList (full.toList.drop (full.length - places))
    (if negative then "-" else "") ++ body

end Bearer.Binary64
