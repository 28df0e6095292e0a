/-! The numbers of so many bits. -/

namespace Bearer.Bits

/-- How many there are; without a sign they are the numbers below. -/
def count (bits : Nat) : Nat := Nat.pow 2 bits

/-- The least number where one bit is for the sign. -/
def least (bits : Nat) : Int := -(count (bits - 1) : Int)

def isSigned (bits : Nat) (n : Int) : Bool := decide (least bits ≤ n ∧ n < count (bits - 1))

end Bearer.Bits
