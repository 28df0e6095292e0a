import Bearer.Packed.Code
/-! The deflate format: blocks of bytes as they are, or of symbols in codes of their own. A symbol is a byte,
the end of the block, or the length of a piece that was there before. -/

namespace Bearer.Packed.Deflate

open Unpacking

/-- The least length that a symbol names, and how many bits are added to it. -/
def lengths : List (Nat × Nat) :=
  [(3, 0), (4, 0), (5, 0), (6, 0), (7, 0), (8, 0), (9, 0), (10, 0), (11, 1), (13, 1), (15, 1), (17, 1),
    (19, 2), (23, 2), (27, 2), (31, 2), (35, 3), (43, 3), (51, 3), (59, 3), (67, 4), (83, 4), (99, 4),
    (115, 4), (131, 5), (163, 5), (195, 5), (227, 5), (258, 0)]

/-- The same for how far back a piece begins. -/
def distances : List (Nat × Nat) :=
  [(1, 0), (2, 0), (3, 0), (4, 0), (5, 1), (7, 1), (9, 2), (13, 2), (17, 3), (25, 3), (33, 4), (49, 4),
    (65, 5), (97, 5), (129, 6), (193, 6), (257, 7), (385, 7), (513, 8), (769, 8), (1025, 9), (1537, 9),
    (2049, 10), (3073, 10), (4097, 11), (6145, 11), (8193, 12), (12289, 12), (16385, 13), (24577, 13)]

def amount (table : List (Nat × Nat)) (s : Nat) : Unpacking Bool Nat := do
  let (least, more) ← sound table[s]?
  return least + (← number more)

/-- The symbols of a block up to its end. -/
def symbols (literal distance : Code) : Nat → Unpacking Bool Unit
  | 0 => throw .broken
  | fuel + 1 => do
    let s ← literal.symbol
    if s < 256 then
      push (UInt8.ofNat s)
      symbols literal distance fuel
    else if s = 256 then return
    else
      let n ← amount lengths (s - 257)
      let back ← amount distances (← distance.symbol)
      copy back n
      symbols literal distance fuel

/-- The code of every block that does not bring one. -/
def usualLengths : List Nat :=
  List.replicate 144 8 ++ List.replicate 112 9 ++ List.replicate 24 7 ++ List.replicate 8 8

/-- The lengths of codes, so many of them. Runs of one length, and of zeros, are written as one. -/
def codeLengths (c : Code) (size : Nat) : Nat → List Nat → Unpacking Bool (List Nat)
  | 0, _ => throw .broken
  | fuel + 1, reversed => do
    if reversed.length = size then return reversed.reverse
    if size < reversed.length then throw .broken
    let s ← c.symbol
    if s < 16 then codeLengths c size fuel (s :: reversed)
    else if s = 16 then
      let last ← sound reversed.head?
      codeLengths c size fuel (List.replicate ((← number 2) + 3) last ++ reversed)
    else
      let n ← if s = 17 then number 3 else (· + 8) <$> number 7
      codeLengths c size fuel (List.replicate (n + 3) 0 ++ reversed)

/-- The order in which the lengths of the code for lengths come. -/
def lengthOrder : List Nat := [16, 17, 18, 0, 8, 7, 9, 6, 10, 5, 11, 4, 12, 3, 13, 2, 14, 1, 15]

/-- The two codes that a block brings. -/
def codes : Unpacking Bool (Code × Code) := do
  let literals := (← number 5) + 257
  let distances := (← number 5) + 1
  let known ← (lengthOrder.take ((← number 4) + 4)).mapM fun s => return (s, ← number 3)
  let c ← sound (Code.ofLengths? ((List.range 19).map fun s => (known.lookup s).getD 0))
  let size := literals + distances
  let all ← codeLengths c size (size + 1) []
  return (← sound (Code.ofLengths? (all.take literals)), ← sound (Code.ofLengths? (all.drop literals)))

/-- Bytes as they are, behind their number and its complement. -/
def plain : Unpacking Bool Unit := do
  align
  let size ← number 16
  if size + (← number 16) ≠ 65535 then throw .broken
  pass size

def block (kind : Nat) : Unpacking Bool Unit := do
  match kind with
  | 0 => plain
  | 1 =>
    let literal ← sound (Code.ofLengths? usualLengths)
    let distance ← sound (Code.ofLengths? (List.replicate 32 5))
    symbols literal distance ((← get).input.length + 1)
  | 2 =>
    let (literal, distance) ← codes
    symbols literal distance ((← get).input.length + 1)
  | _ => throw .broken

def blocks : Nat → Unpacking Bool Unit
  | 0 => throw .broken
  | fuel + 1 => do
    let isLast ← number 1
    block (← number 2)
    if isLast = 1 then return else blocks fuel

/-- What was packed, `most` bytes at the most, what stopped unpacking if anything did, and the bytes that
follow. -/
def unpack (most : Nat) (bs : List UInt8) : List UInt8 × Option Flaw × List UInt8 :=
  let (flaw, w) := (blocks (8 * bs.length + 1)).run most (bits bs)
  (w.output.toList, flaw, bytes (flush w.input))

example : unpack 9 [0x4b, 0x04, 0x00, 7] = ([97], none, [7]) := by decide +kernel
example : unpack 9 [0x01, 0x01, 0x00, 0xfe, 0xff, 97] = ([97], none, []) := by decide +kernel
example : unpack 9 [0x01, 0x02, 0x00, 0xfd, 0xff, 97] = ([97], some .cut, [97]) := by decide +kernel

end Bearer.Packed.Deflate
