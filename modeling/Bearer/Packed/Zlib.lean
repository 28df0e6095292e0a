import Bearer.Digest.Adler32
import Bearer.Packed.Deflate
/-! The zlib format: packed bytes between a head of two bytes and their checksum. -/

namespace Bearer.Packed.Zlib

/-- The head names the format and the size of its window, needs nothing agreed before, and is a multiple
of 31. -/
def isHead (kind flags : UInt8) : Bool :=
  kind.toNat % 16 == 8 && kind.toNat / 16 ≤ 7 && !flags.toNat.testBit 5
    && (256 * kind.toNat + flags.toNat) % 31 == 0

/-- What was packed, with nothing behind it. The end may be missing, and then counts what is there. -/
def unpack? (most : Nat) : List UInt8 → Option (List UInt8)
  | kind :: flags :: rest =>
    if isHead kind flags then
      match Deflate.unpack most rest with
      | (out, none, tail) =>
        let sum := tail.foldl (fun n b => 256 * n + b.toNat) 0
        if tail.length < 4 ∨ tail.length = 4 ∧ sum = Adler32.digest out then some out else none
      | (out, some .cut, _) => some out
      | (_, some .broken, _) => none
    else none
  | _ => some []

end Bearer.Packed.Zlib
