import Bearer.Digest.Xxh64
import Bearer.Packed.Unpacking
import Bearer.Packed.Zstd.Prefixed
import Bearer.Packed.Zstd.Sequences
/-! The frames of this format, one after the other. A frame holds blocks, which are bytes as they are, one byte
many times, or literals and sequences. Some frames are passed over. -/

namespace Bearer.Packed.Zstd

open Unpacking

/-- What a block takes over from the ones before it. -/
structure Past where
  code : Option Prefixed
  tables : Option Tables
  recent : Recent

def Past.start : Past := ⟨none, none, .start⟩

/-- The number of some bytes, the least first. -/
def littleEndian (bs : List UInt8) : Nat := bs.foldr (fun b n => 256 * n + b.toNat) 0

/-- Blocks hold no more than this. -/
def mostInBlock : Nat := 131072

/-- Bytes as they are or one byte many times. The size has 5, 12 or 20 bits. -/
def simpleLiterals? (isRun : Bool) (bs : List UInt8) : Option (List UInt8 × List UInt8) :=
  let b := (littleEndian (bs.take 1))
  let (head, size) := match b / 4 % 4 with
    | 1 => (2, littleEndian (bs.take 2) / 16)
    | 3 => (3, littleEndian (bs.take 3) / 16)
    | _ => (1, b / 8)
  let rest := bs.drop head
  if bs.length < head ∨ mostInBlock < size ∨ rest.length < (if isRun then 1 else size) then none
  else if isRun then some (List.replicate size (rest.headD 0), rest.drop 1)
  else some (rest.take size, rest.drop size)

/-- Bytes in a code, which is the one before or stands in front of them. There are one or four parts, and two sizes
of 10, 14 or 18 bits. -/
def codedLiterals? (last : Option Prefixed) (isLast : Bool) (bs : List UInt8) :
    Option (List UInt8 × Prefixed × List UInt8) := do
  let kind := littleEndian (bs.take 1) / 4 % 4
  let width := if kind = 3 then 18 else if kind = 2 then 14 else 10
  let head := (4 + 2 * width + 7) / 8
  let sizes := littleEndian (bs.take head) / 16
  let size := sizes % Bits.count width
  let packed := sizes / Bits.count width % Bits.count width
  let rest := bs.drop head
  if bs.length < 5 ∨ mostInBlock < size ∨ size = 0 ∨ rest.length < packed then none
  let (code, body) ← if isLast then last.map fun p => (p, rest.take packed) else Prefixed.read? (rest.take packed)
  let out ← if kind = 0 then code.stream? size body else code.streams? size body
  some (out, code, rest.drop packed)

/-- The literals of a block, and what follows them. -/
def literals? (p : Past) (bs : List UInt8) : Option (List UInt8 × Past × List UInt8) := do
  match littleEndian (bs.take 1) % 4 with
  | 0 => (simpleLiterals? false bs).map fun (out, rest) => (out, p, rest)
  | 1 => (simpleLiterals? true bs).map fun (out, rest) => (out, p, rest)
  | kind =>
    let (out, code, rest) ← codedLiterals? p.code (kind = 3) bs
    some (out, { p with code := some code }, rest)

/-- Writes literals and pieces in turn, then the literals that are left over. No piece begins before the frame
does. -/
def write (start : Nat) : List Sequence → Recent → List UInt8 → Unpacking UInt8 Recent
  | [], r, literals => do
    for b in literals do push b
    return r
  | s :: rest, r, literals => do
    if literals.length < s.literals then throw .broken
    for b in literals.take s.literals do push b
    let (back, r) := r.resolve s
    if (← size) - start < back then throw .broken
    copy back s.length
    write start rest r (literals.drop s.literals)

/-- A block of literals and sequences. -/
def packedBlock (start most : Nat) (p : Past) (bs : List UInt8) : Unpacking UInt8 Past := do
  let (literals, p, rest) ← sound (literals? p bs)
  let (sequences, tables) ← sound (readSequences? p.tables rest)
  if most < literals.length ∨ bs.length < 2 then throw .broken
  let before ← size
  let recent ← write start sequences p.recent literals
  if most < (← size) - before then throw .broken
  return { p with tables, recent }

/-- Bytes that pass as they are. What is there of them passes also if the rest is cut off. -/
def passBytes (n : Nat) : Unpacking UInt8 Unit := do
  for b in (← get).input.take n do push b
  let _ ← take n

/-- Blocks up to the last one. -/
def blocks (start most : Nat) : Nat → Past → Unpacking UInt8 Unit
  | 0, _ => throw .broken
  | fuel + 1, p => do
    let head := littleEndian (← take 3)
    let n := head / 8
    let kind := head / 2 % 4
    if kind ≠ 1 ∧ most < n then throw .broken
    let p ← match kind with
      | 0 => do
        passBytes n
        pure p
      | 1 => do
        for b in ← take 1 do
          if most < n then throw .broken
          for _ in List.range n do push b
        pure p
      | 2 => do packedBlock start most p (← take n)
      | _ => throw .broken
    if head % 2 = 1 then return else blocks start most fuel p

/-- A number of so many bytes, the least first. -/
def field (n : Nat) : Unpacking UInt8 Nat := return littleEndian (← take n)

/-- The largest window that is granted. -/
def mostWindow : Nat := 134217729

/-- A frame behind its first four bytes: how much it looks back, how much it holds, blocks and a checksum. -/
def frame : Unpacking UInt8 Unit := do
  let flags ← field 1
  let isOnePiece := flags / 32 % 2 = 1
  if flags / 8 % 2 = 1 then throw .broken
  let window ← if isOnePiece then pure 0 else field 1
  let dictionary ← field ([0, 1, 2, 4].getD (flags % 4) 0)
  let width := if flags / 64 = 0 then (if isOnePiece then 1 else 0) else Bits.count (flags / 64)
  let stated := (← field width) + (if width = 2 then 256 else 0)
  let base := Bits.count (10 + window / 8)
  let window := if isOnePiece then stated else base + base / 8 * (window % 8)
  if dictionary ≠ 0 ∨ mostWindow < window then throw .broken
  let start ← size
  blocks start (min window mostInBlock) ((← get).input.length + 1) .start
  let w ← get
  let out := w.output.toList.drop start
  if width ≠ 0 ∧ out.length ≠ stated then throw .broken
  if flags / 4 % 2 = 1 then
    if (← field 4) ≠ (Xxh64.digest out).toNat % 4294967296 then throw .broken

/-- The first bytes of a frame, and of one that is passed over; the first of the latter has 16 values. -/
def mark : List UInt8 := [0x28, 0xb5, 0x2f, 0xfd]

def isSkipped (bs : List UInt8) : Bool :=
  bs.head?.all (fun b => b.toNat / 16 == 5) && (bs.drop 1).isPrefixOf [0x2a, 0x4d, 0x18]

def frames : Nat → Unpacking UInt8 Unit
  | 0 => throw .broken
  | fuel + 1 => do
    let front := (← get).input.take 4
    if front.isEmpty then return
    if !front.isPrefixOf mark && !isSkipped front then throw .broken
    let _ ← take 4
    if front == mark then frame
    else
      let n ← field 4
      let _ ← take n
    frames fuel

/-- What was packed. The end may be missing, and then counts what is there. -/
def unpack? (most : Nat) (bs : List UInt8) : Option (List UInt8) :=
  match (frames (bs.length + 1)).run most bs with
  | (some .broken, _) => none
  | (_, w) => some w.output.toList

example : unpack? 9 [0x28, 0xb5, 0x2f, 0xfd, 0x20, 2, 0x11, 0, 0, 97, 98] = some [97, 98] := by decide +kernel

end Bearer.Packed.Zstd
