/-! Bytes as bits, the least of each byte first, and numbers of so many bits. `bytes_bits` says that the bits
of whole bytes are those bytes. -/

namespace Bearer.Packed

def bits (bs : List UInt8) : List Bool := bs.flatMap fun b => (List.range 8).map b.toNat.testBit

/-- The number of some bits, the least of them first. -/
def value (bs : List Bool) : Nat := bs.foldr (fun b n => 2 * n + b.toNat) 0

/-- The number of so many bits, and what follows them. -/
def number? (size : Nat) (bs : List Bool) : Option (Nat × List Bool) :=
  let front := bs.take size
  if front.length < size then none else some (value front, bs.drop size)

/-- What is left from the next byte on, where whole bytes came in. -/
def flush (bs : List Bool) : List Bool := bs.drop (bs.length % 8)

/-- The bytes of bits; a rest of fewer than eight is none. -/
def bytes : List Bool → List UInt8
  | a :: b :: c :: d :: e :: f :: g :: h :: rest =>
    UInt8.ofNat (value [a, b, c, d, e, f, g, h]) :: bytes rest
  | _ => []

theorem value_bits (b : UInt8) : UInt8.ofNat (value ((List.range 8).map b.toNat.testBit)) = b := by
  have h : ∀ n, n < 256 → value ((List.range 8).map n.testBit) = n := by decide +kernel
  rw [h _ b.toNat_lt]
  exact UInt8.ofNat_toNat

theorem bytes_bits (bs : List UInt8) : bytes (bits bs) = bs := by
  induction bs with
  | nil => rfl
  | cons b bs ih =>
    have hb := value_bits b
    simp only [bits, List.flatMap_cons] at ih ⊢
    simp only [List.range_succ_eq_map, List.range_zero, List.map_cons, List.map_nil, List.cons_append,
      List.nil_append, bytes] at hb ih ⊢
    rw [hb, ih]

end Bearer.Packed
