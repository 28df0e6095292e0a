import Bearer.Bits
import Bearer.Packed.Bits
/-! Symbols by states. A state stands for a symbol and for the states that may follow, of which some bits choose
one; the more states a symbol has, the fewer bits it costs. The bits are read from the end. -/

namespace Bearer.Packed.Zstd

/-- Bits to be read from the end, in that order. The last bit that is set only marks the end. -/
def backward? (bs : List UInt8) : Option (List Bool) :=
  if bs.getLast?.all (· == 0) then none else some (((bits bs).reverse.dropWhile fun b => !b).drop 1)

/-- The number of so many bits, the greatest of them first. Bits that are not there count as zeros. -/
def ahead (n : Nat) (bs : List Bool) : Nat :=
  (bs.take n).foldl (fun v b => 2 * v + b.toNat) 0 * Bits.count (n - bs.length)

structure Cell where
  symbol : Nat
  /-- How many bits choose the next state, and the first of the states that they choose from. -/
  size : Nat
  first : Nat

structure Fse where
  /-- There are two to this power states. -/
  log : Nat
  cells : Array Cell

namespace Fse

/-- One state for a symbol. -/
def single (symbol : Nat) : Fse := ⟨0, #[⟨symbol, 0, 0⟩]⟩

/-- How many states the symbols have, one symbol after the other; `none` stands for less than one, which gets
one at the end. Steps of a fixed width place the others. -/
def ofShares (log : Nat) (shares : List (Option Nat)) : Fse :=
  let size := Bits.count log
  let indexed := shares.zipIdx
  let rare := (indexed.filter fun p => p.1.isNone).map Prod.snd
  let step := size / 2 + size / 8 + 3
  let spots := ((List.range size).map fun i => i * step % size).filter (· < size - rare.length)
  let common := indexed.flatMap fun (n, s) => List.replicate (n.getD 0) s
  let placed := spots.zip common ++ rare.zipIdx.map fun (s, i) => (size - 1 - i, s)
  let symbols := placed.foldl (fun a (p, s) => a.setIfInBounds p s) (Array.replicate size 0)
  let (cells, _) := symbols.foldl (fun (cells, next) s =>
    let n := next.getD s 1
    let bits := log - n.log2
    (cells.push ⟨s, bits, n * Bits.count bits - size⟩, next.setIfInBounds s (n + 1)))
    ((#[] : Array Cell), (shares.map fun n => n.getD 1).toArray)
  ⟨log, cells⟩

/-- How many symbols without states follow one of them: threes as long as they come. -/
def zeros? : Nat → List Bool → Option (Nat × List Bool)
  | 0, _ => none
  | fuel + 1, bs => do
    let (n, bs) ← number? 2 bs
    if n = 3 then (zeros? fuel bs).map fun (m, bs) => (3 + m, bs) else some (n, bs)

/-- Shares of what remains. The smaller numbers that are possible take a bit less than the others. -/
def shares? (most : Nat) : Nat → Nat → List (Option Nat) → List Bool → Option (List (Option Nat) × List Bool)
  | 0, _, _, _ => none
  | fuel + 1, remaining, reversed, bs => do
    if remaining = 0 then return (reversed.reverse, bs)
    if most ≤ reversed.length then none
    let size := (remaining + 1).log2
    let half := Bits.count size
    let short := 2 * half - 2 - remaining
    let low := value (bs.take size)
    let full := value (bs.take (size + 1))
    let (n, used) :=
      if low < short then (low, size) else (if half ≤ full then full - short else full, size + 1)
    if bs.length < used then none
    let bs := bs.drop used
    match n with
    | 0 => shares? most fuel (remaining - 1) (none :: reversed) bs
    | 1 =>
      let (more, bs) ← zeros? (bs.length + 1) bs
      shares? most fuel remaining (List.replicate (more + 1) (some 0) ++ reversed) bs
    | n => shares? most fuel (remaining + 1 - n) (some (n - 1) :: reversed) bs

/-- A table at the front of some bytes, for less than `most` symbols and two to the power of `mostLog` states at
the most, and what follows it. -/
def read? (most mostLog : Nat) (bs : List UInt8) : Option (Fse × List UInt8) := do
  let all := bits bs
  let (n, rest) ← number? 4 all
  if mostLog < n + 5 then none
  let (shares, rest) ← shares? most (most + 1) (Bits.count (n + 5)) [] rest
  some (ofShares (n + 5) shares, bytes (flush rest))

def cell (f : Fse) (state : Nat) : Cell := f.cells.getD state ⟨0, 0, 0⟩

/-- The symbols of two states in turn, until there are not enough bits for the next state; then comes the symbol
of the other one. There are less than 256 symbols. -/
def alternate? (f : Fse) : Nat → Nat → Nat → List Bool → Option (List Nat)
  | 0, _, _, _ => none
  | fuel + 1, x, y, bs =>
    let c := f.cell x
    if bs.length < c.size then some [c.symbol, (f.cell y).symbol]
    else (alternate? f fuel y (c.first + ahead c.size bs) (bs.drop c.size)).map (c.symbol :: ·)

/-- All symbols of some bytes. -/
def symbols? (f : Fse) (bs : List UInt8) : Option (List Nat) := do
  let bs ← backward? bs
  let after := bs.drop f.log
  alternate? f 254 (ahead f.log bs) (ahead f.log after) (after.drop f.log)

end Fse

end Bearer.Packed.Zstd
