/-! The checksum of two sums modulo the largest prime below 65536: of the bytes, and of these sums. -/

namespace Bearer.Adler32

def modulus : Nat := 65521

def step (sums : Nat × Nat) (b : UInt8) : Nat × Nat :=
  let low := (sums.1 + b.toNat) % modulus
  (low, (sums.2 + low) % modulus)

def digest (bs : List UInt8) : Nat :=
  let (low, high) := bs.foldl step (1, 0)
  65536 * high + low

example : digest ("Wikipedia".toList.map fun c => c.toNat.toUInt8) = 0x11e60398 := by decide +kernel

end Bearer.Adler32
