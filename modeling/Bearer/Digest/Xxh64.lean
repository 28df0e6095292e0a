/-! A checksum of 64 bits. Words of eight bytes are mixed into four lanes in turn; what is left over is mixed
into what the lanes make. -/

namespace Bearer.Xxh64

def prime1 : UInt64 := 11400714785074694791
def prime2 : UInt64 := 14029467366897019727
def prime3 : UInt64 := 1609587929392839161
def prime4 : UInt64 := 9650029242287828579
def prime5 : UInt64 := 2870177450012600261

def turn (x : UInt64) (n : UInt64) : UInt64 := (x <<< n) ||| (x >>> (64 - n))

def round (lane word : UInt64) : UInt64 := turn (lane + word * prime2) 31 * prime1

/-- The number of some bytes, the least first. -/
def word (bs : List UInt8) : UInt64 := bs.foldr (fun b n => 256 * n + b.toUInt64) 0

structure Lanes where
  a : UInt64
  b : UInt64
  c : UInt64
  d : UInt64

def Lanes.start : Lanes := ⟨prime1 + prime2, prime2, 0, 0 - prime1⟩

/-- Mixes whole groups of four words, so many of them. -/
def Lanes.mix (l : Lanes) : Nat → List UInt8 → Lanes
  | 0, _ => l
  | n + 1, bs =>
    let word8 (i : Nat) : UInt64 := word ((bs.drop (8 * i)).take 8)
    Lanes.mix ⟨round l.a (word8 0), round l.b (word8 1), round l.c (word8 2), round l.d (word8 3)⟩ n (bs.drop 32)

def Lanes.merge (h lane : UInt64) : UInt64 := (h ^^^ round 0 lane) * prime1 + prime4

def Lanes.sum (l : Lanes) : UInt64 :=
  [l.a, l.b, l.c, l.d].foldl merge (turn l.a 1 + turn l.b 7 + turn l.c 12 + turn l.d 18)

def byteStep (h : UInt64) (b : UInt8) : UInt64 := turn (h ^^^ (b.toUInt64 * prime5)) 11 * prime1

/-- Mixes in words of eight bytes, so many of them, then one of four, then bytes. -/
def tail (h : UInt64) : Nat → List UInt8 → UInt64
  | 0, bs =>
    if 4 ≤ bs.length then
      (bs.drop 4).foldl byteStep (turn (h ^^^ (word (bs.take 4) * prime1)) 23 * prime2 + prime3)
    else bs.foldl byteStep h
  | n + 1, bs => tail (turn (h ^^^ round 0 (word (bs.take 8))) 27 * prime1 + prime4) n (bs.drop 8)

def finish (h : UInt64) : UInt64 :=
  let h := (h ^^^ (h >>> 33)) * prime2
  let h := (h ^^^ (h >>> 29)) * prime3
  h ^^^ (h >>> 32)

def digest (bs : List UInt8) : UInt64 :=
  let size := bs.length
  let start := if size < 32 then prime5 else (Lanes.start.mix (size / 32) bs).sum
  let rest := bs.drop (32 * (size / 32))
  finish (tail (start + UInt64.ofNat size) (rest.length / 8) rest)

example : digest [] = 0xef46db3751d8e999 := by decide +kernel
example : digest [97, 98, 99] = 0x44bc2cf5ad770999 := by decide +kernel

end Bearer.Xxh64
