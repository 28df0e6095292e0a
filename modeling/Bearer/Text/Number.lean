import Bearer.Bits
/-! Whole numbers as people write them: digits, perhaps behind a sign. A number out of bounds is none. -/

namespace Bearer.Text

def digits? (cs : List Char) : Option Nat :=
  if cs.isEmpty || !cs.all Char.isDigit then none
  else some (cs.foldl (fun n c => 10 * n + (c.toNat - 48)) 0)

/-- A number of so many bits; the sign can only be plus. -/
def unsigned? (bits : Nat) (s : String) : Option Nat :=
  let n := match s.toList with
    | '+' :: rest => digits? rest
    | cs => digits? cs
  n.filter fun n => n < Bits.count bits

/-- A number of so many bits, one of them for the sign. -/
def signed? (bits : Nat) (s : String) : Option Int :=
  let n : Option Int := match s.toList with
    | '+' :: rest => (digits? rest).map fun n => (n : Int)
    | '-' :: rest => (digits? rest).map fun n => -(n : Int)
    | cs => (digits? cs).map fun n => (n : Int)
  n.filter (Bits.isSigned bits)

example : unsigned? 16 "+5" = some 5 ∧ unsigned? 16 "65536" = none ∧ unsigned? 16 "-0" = none := by
  decide +kernel
example : signed? 64 "-0" = some 0 ∧ signed? 64 "" = none ∧ signed? 64 "5 " = none := by
  decide +kernel

end Bearer.Text
