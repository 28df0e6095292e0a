import Bearer.Packed.Zstd.Fse
/-! Bytes in a code without prefixes. A byte has a weight: each one more makes its code one bit shorter. -/

namespace Bearer.Packed.Zstd

structure Prefixed where
  /-- How many bits the longest code has. -/
  log : Nat
  /-- For each number of so many bits the byte whose code it begins with, and the length of that code. -/
  entries : Array (Nat × Nat)

namespace Prefixed

def longest : Nat := 12

/-- How many numbers begin with the code of a byte. -/
def share (weight : Nat) : Nat := if weight = 0 then 0 else Bits.count (weight - 1)

/-- The code of bytes with the given weights, the last byte excepted, which gets what is left over. -/
def ofWeights? (weights : List Nat) : Option Prefixed := do
  let total := weights.foldl (fun t w => t + share w) 0
  if total = 0 ∨ weights.any (longest < ·) then none
  let log := total.log2 + 1
  let left := Bits.count log - total
  if longest < log ∨ Bits.count left.log2 ≠ left then none
  let weights := weights ++ [left.log2 + 1]
  let ones := weights.count 1
  if ones < 2 ∨ ones % 2 = 1 then none
  let indexed := weights.zipIdx
  let entries := (List.range log).flatMap fun w =>
    indexed.flatMap fun (weight, s) =>
      if weight = w + 1 then List.replicate (share weight) (s, log - w) else []
  some ⟨log, entries.toArray⟩

/-- A code at the front of some bytes, and what follows it. Its weights are numbers of four bits or symbols of a
table of their own. -/
def read? : List UInt8 → Option (Prefixed × List UInt8)
  | [] => none
  | b :: bs => do
    let head := b.toNat
    if 128 ≤ head then
      let n := head - 127
      let size := (n + 1) / 2
      if bs.length < size then none
      let halves := (bs.take size).flatMap fun b => [b.toNat / 16, b.toNat % 16]
      some (← ofWeights? (halves.take n), bs.drop size)
    else
      if bs.length < head then none
      let (f, rest) ← Fse.read? 256 6 (bs.take head)
      some (← ofWeights? (← f.symbols? rest), bs.drop head)

/-- So many bytes, for which the bits have to suffice exactly. -/
def decode? (p : Prefixed) : Nat → List Bool → Option (List UInt8)
  | 0, [] => some []
  | 0, _ :: _ => none
  | n + 1, bs =>
    let (s, size) := p.entries.getD (ahead p.log bs) (0, 0)
    if bs.length < size then none else (decode? p n (bs.drop size)).map (UInt8.ofNat s :: ·)

def stream? (p : Prefixed) (n : Nat) (bs : List UInt8) : Option (List UInt8) :=
  (backward? bs).bind (p.decode? n)

/-- The same in four parts, in front of which stand the sizes of three of them. -/
def streams? (p : Prefixed) (n : Nat) (bs : List UInt8) : Option (List UInt8) := do
  if n < 6 ∨ bs.length < 10 then none
  let part := (n + 3) / 4
  let size (i : Nat) : Nat := ((bs.drop (2 * i)).take 2).foldr (fun b n => 256 * n + b.toNat) 0
  let rest := bs.drop 6
  if rest.length < size 0 + size 1 + size 2 ∨ n < 3 * part then none
  let a ← p.stream? part (rest.take (size 0))
  let rest := rest.drop (size 0)
  let b ← p.stream? part (rest.take (size 1))
  let rest := rest.drop (size 1)
  let c ← p.stream? part (rest.take (size 2))
  let d ← p.stream? (n - 3 * part) (rest.drop (size 2))
  some (a ++ b ++ c ++ d)

end Prefixed

end Bearer.Packed.Zstd
