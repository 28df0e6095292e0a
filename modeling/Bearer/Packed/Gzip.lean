import Bearer.Digest.Crc32
import Bearer.Packed.Deflate
/-! The gzip format: packed bytes between a head, which may name a file, and their checksum and number. -/

namespace Bearer.Packed.Gzip

/-- The number of some bytes, the least first. -/
def number (bs : List UInt8) : Nat := bs.foldr (fun b n => 256 * n + b.toNat) 0

/-- What follows a text that ends with a zero byte. -/
def afterText? (bs : List UInt8) : Option (List UInt8) :=
  match bs.dropWhile (· != 0) with
  | _ :: rest => some rest
  | [] => none

/-- What follows a field behind its length. -/
def afterField? (bs : List UInt8) : Option (List UInt8) :=
  let size := number (bs.take 2)
  if bs.length < 2 + size then none else some (bs.drop (2 + size))

/-- What follows the head, whose flags say what is in it. -/
def afterHead? (bs : List UInt8) : Option (List UInt8) :=
  match bs with
  | 31 :: 139 :: 8 :: flags :: _ :: _ :: _ :: _ :: _ :: _ :: rest => do
    let has (bit : Nat) : Bool := flags.toNat.testBit bit
    let rest ← if has 2 then afterField? rest else some rest
    let rest ← if has 3 then afterText? rest else some rest
    let rest ← if has 4 then afterText? rest else some rest
    let head := bs.take (bs.length - rest.length)
    if 32 ≤ flags then none
    else if has 1 then
      if rest.length < 2 ∨ number (rest.take 2) ≠ (Crc32.digest head).toNat % 65536 then none
      else some (rest.drop 2)
    else some rest
  | _ => none

/-- What was packed, with nothing behind it. -/
def unpack? (most : Nat) (bs : List UInt8) : Option (List UInt8) := do
  match Deflate.unpack most (← afterHead? bs) with
  | (out, none, tail) =>
    if tail.length = 8 ∧ number (tail.take 4) = (Crc32.digest out).toNat
        ∧ number (tail.drop 4) = out.length % 4294967296 then
      some out
    else none
  | _ => none

end Bearer.Packed.Gzip
