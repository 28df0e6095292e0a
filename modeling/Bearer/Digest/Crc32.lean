/-! The cyclic redundancy check of 32 bits, the least bit of each byte first. -/

namespace Bearer.Crc32

def polynomial : UInt32 := 0xedb88320

def shift (r : UInt32) : UInt32 := if r &&& 1 = 1 then (r >>> 1) ^^^ polynomial else r >>> 1

def step (r : UInt32) (b : UInt8) : UInt32 :=
  shift <| shift <| shift <| shift <| shift <| shift <| shift <| shift <| r ^^^ b.toUInt32

def digest (bs : List UInt8) : UInt32 := bs.foldl step 0xffffffff ^^^ 0xffffffff

example : digest ("123456789".toList.map fun c => c.toNat.toUInt8) = 0xcbf43926 := by decide +kernel

end Bearer.Crc32
