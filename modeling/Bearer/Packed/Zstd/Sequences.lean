import Bearer.Packed.Zstd.Fse
/-! Sequences: so many literal bytes, then a piece of some length from so far back. -/

namespace Bearer.Packed.Zstd

structure Sequence where
  literals : Nat
  length : Nat
  /-- How far back, from four on with three added; less stands for one of the last distances. -/
  back : Nat

/-- The tables for numbers of literals, lengths and distances. -/
structure Tables where
  literals : Fse
  lengths : Fse
  backs : Fse

/-- The least number that a symbol names and how many bits are added to it. -/
abbrev Amounts := List (Nat × Nat)

/-- One symbol for each number from `least` on. -/
def plainAmounts (least count : Nat) : Amounts := (List.range count).map fun i => (least + i, 0)

def literalAmounts : Amounts :=
  plainAmounts 0 16 ++ [(16, 1), (18, 1), (20, 1), (22, 1), (24, 2), (28, 2), (32, 3), (40, 3), (48, 4),
    (64, 6), (128, 7), (256, 8), (512, 9), (1024, 10), (2048, 11), (4096, 12), (8192, 13), (16384, 14),
    (32768, 15), (65536, 16)]

def lengthAmounts : Amounts :=
  plainAmounts 3 32 ++ [(35, 1), (37, 1), (39, 1), (41, 1), (43, 2), (47, 2), (51, 3), (59, 3), (67, 4),
    (83, 4), (99, 5), (131, 7), (259, 8), (515, 9), (1027, 10), (2051, 11), (4099, 12), (8195, 13),
    (16387, 14), (32771, 15), (65539, 16)]

def backAmounts : Amounts := (List.range 32).map fun i => (Bits.count i, i)

def usualLiterals (_ : Unit) : Fse :=
  Fse.ofShares 6 ([4, 3] ++ List.replicate 11 2 ++ [1, 1, 1] ++ List.replicate 9 2 ++ [3, 2]
    ++ List.replicate 5 1 |>.map some |>.append (List.replicate 4 none))

def usualLengths (_ : Unit) : Fse :=
  Fse.ofShares 6 ([1, 4, 3] ++ List.replicate 6 2 ++ List.replicate 37 1 |>.map some
    |>.append (List.replicate 7 none))

def usualBacks (_ : Unit) : Fse :=
  Fse.ofShares 5 (List.replicate 6 1 ++ [2, 2, 2] ++ List.replicate 15 1 |>.map some
    |>.append (List.replicate 5 none))

/-- The table that a block names: the usual one, one symbol, one of its own, or the one before. -/
def table? (kind most mostLog : Nat) (usual : Unit → Fse) (last : Option Fse) (bs : List UInt8) :
    Option (Fse × List UInt8) :=
  match kind, bs with
  | 0, bs => some (usual (), bs)
  | 1, b :: bs => if b.toNat < most then some (Fse.single b.toNat, bs) else none
  | 2, bs => Fse.read? most mostLog bs
  | 3, bs => last.map fun t => (t, bs)
  | _, _ => none

/-- How many sequences there are, and what follows. -/
def count? : List UInt8 → Option (Nat × List UInt8)
  | a :: bs =>
    if a < 128 then some (a.toNat, bs)
    else if a < 255 then
      match bs with
      | b :: bs => some (256 * (a.toNat - 128) + b.toNat, bs)
      | [] => none
    else
      match bs with
      | b :: c :: bs => some (b.toNat + 256 * c.toNat + 32512, bs)
      | _ => none
  | [] => none

def amount? (table : Amounts) (c : Cell) (bs : List Bool) : Option (Nat × List Bool) := do
  let (least, more) ← table[c.symbol]?
  if bs.length < more then none else some (least + ahead more bs, bs.drop more)

def next? (c : Cell) (bs : List Bool) : Option (Nat × List Bool) :=
  if bs.length < c.size then none else some (c.first + ahead c.size bs, bs.drop c.size)

/-- So many sequences from three states, for which the bits have to suffice exactly. -/
def sequences? (t : Tables) : Nat → Nat → Nat → Nat → List Bool → Option (List Sequence)
  | 0, _, _, _, _ => some []
  | n + 1, literal, length, back, bs => do
    let l := t.literals.cell literal
    let m := t.lengths.cell length
    let d := t.backs.cell back
    let (distance, bs) ← amount? backAmounts d bs
    let (size, bs) ← amount? lengthAmounts m bs
    let (count, bs) ← amount? literalAmounts l bs
    let s : Sequence := ⟨count, size, distance⟩
    if n = 0 then if bs.isEmpty then some [s] else none
    else
      let (literal, bs) ← next? l bs
      let (length, bs) ← next? m bs
      let (back, bs) ← next? d bs
      (sequences? t n literal length back bs).map (s :: ·)

/-- The sequences of a block, and the tables for the next one. -/
def readSequences? (last : Option Tables) (bs : List UInt8) : Option (List Sequence × Option Tables) := do
  let (n, bs) ← count? bs
  if n = 0 then if bs.isEmpty then return ([], last) else none
  match bs with
  | [] => none
  | kinds :: bs =>
    let kind (i : Nat) : Nat := kinds.toNat / i % 4
    if kind 1 ≠ 0 then none
    let (literals, bs) ← table? (kind 64) 36 9 usualLiterals (last.map Tables.literals) bs
    let (backs, bs) ← table? (kind 16) 32 8 usualBacks (last.map Tables.backs) bs
    let (lengths, bs) ← table? (kind 4) 53 9 usualLengths (last.map Tables.lengths) bs
    let t : Tables := ⟨literals, lengths, backs⟩
    let bits ← backward? bs
    let start := literals.log + backs.log + lengths.log
    if bits.length < start then none
    let after := bits.drop literals.log
    let later := after.drop backs.log
    let all ← sequences? t n (ahead literals.log bits) (ahead lengths.log later) (ahead backs.log after)
      (later.drop lengths.log)
    return (all, some t)

/-- The last three distances, the latest first. -/
structure Recent where
  first : Nat
  second : Nat
  third : Nat

def Recent.start : Recent := ⟨1, 4, 8⟩

/-- How far back a sequence goes, and the distances then. One of the last distances comes to the front; without
literals the first of them is passed over, and the last number stands for one less than it. -/
def Recent.resolve (r : Recent) (s : Sequence) : Nat × Recent :=
  let pick := if s.literals = 0 then s.back + 1 else s.back
  if 3 < s.back then (s.back - 3, ⟨s.back - 3, r.first, r.second⟩)
  else
    match pick with
    | 1 => (r.first, r)
    | 2 => (r.second, ⟨r.second, r.first, r.third⟩)
    | 3 => (r.third, ⟨r.third, r.first, r.second⟩)
    | _ => (r.first - 1, ⟨r.first - 1, r.first, r.second⟩)

end Bearer.Packed.Zstd
