import Bearer.Bits
import Bearer.Packed.Code
/-! How codes are written: a few symbols by name, or the length of each symbol's code in a code that is itself
written by lengths. Also maps from contexts to codes. -/

namespace Bearer.Packed.Brotli

open Unpacking

/-- A number from 1 to 256. -/
def smallCount : Unpacking Bool Nat := do
  if (← number 1) = 0 then return 1
  let n ← number 3
  return 1 + Bits.count n + (← number n)

/-- The least number that a symbol names, and how many bits are added to it. -/
def amount (table : List (Nat × Nat)) (s : Nat) : Unpacking Bool Nat := do
  let (least, more) ← sound table[s]?
  return least + (← number more)

def symbols (size : Nat) : Nat → Unpacking Bool (List Nat)
  | 0 => return []
  | n + 1 => do
    let s ← number ((size - 1).log2 + 1)
    if size ≤ s then throw .broken
    return s :: (← symbols size n)

def sorted (ss : List Nat) : List Nat := ss.mergeSort

/-- One to four symbols, the first of which may have shorter codes. -/
def fewSymbols (size : Nat) : Unpacking Bool Code := do
  let ss ← symbols size ((← number 2) + 1)
  if !decide ss.Nodup then throw .broken
  match ss with
  | [a] => return .only a
  | [_, _] => return ⟨[2], (sorted ss).toArray⟩
  | [a, b, c] => return ⟨[1, 2], (a :: sorted [b, c]).toArray⟩
  | [a, b, c, d] =>
    if (← number 1) = 0 then return ⟨[0, 4], (sorted ss).toArray⟩
    return ⟨[1, 1, 2], (a :: b :: sorted [c, d]).toArray⟩
  | _ => throw .broken

/-- The length of a code in the code for lengths. -/
def lengthLength : Unpacking Bool Nat := do
  match ← number 2 with
  | 0 => return 0
  | 1 => return 4
  | 2 => return 3
  | _ =>
    if (← number 1) = 0 then return 2
    if (← number 1) = 0 then return 1
    return 5

/-- Lengths for symbols in their order, as long as a code of 32 parts is not full. -/
def lengthLengths : List Nat → Nat → Unpacking Bool (List (Nat × Nat) × Nat)
  | [], room => return ([], room)
  | s :: order, room => do
    if room = 0 then return ([], 0)
    let n ← lengthLength
    if n = 0 then lengthLengths order room
    else
      let part := 32 / Bits.count n
      if room < part then throw .broken
      let (known, room) ← lengthLengths order (room - part)
      return ((s, n) :: known, room)

/-- The order in which the lengths of the code for lengths come. -/
def lengthOrder : List Nat := [1, 2, 3, 4, 0, 5, 17, 6, 16, 7, 8, 9, 10, 11, 12, 13, 14, 15]

/-- The code for lengths. It has one symbol, or it is full. -/
def lengthCode (skipped : Nat) : Unpacking Bool Code := do
  let (known, room) ← lengthLengths (lengthOrder.drop skipped) 32
  match known with
  | [(s, _)] => return .only s
  | _ =>
    if room ≠ 0 then throw .broken
    sound (Code.ofLengths? ((List.range 18).map fun s => (known.lookup s).getD 0))

/-- What has been read of a list of lengths. -/
structure Lengths where
  reversed : List Nat
  /-- How much of a code of 32768 parts is left. -/
  room : Nat
  /-- The last length that is not 0. -/
  last : Nat
  /-- The run that the list ends with, if it was written as one: its length and how often it comes. -/
  run : Nat × Nat

def Lengths.start : Lengths := ⟨[], 32768, 8, (0, 0)⟩

def Lengths.add (l : Lengths) (n count : Nat) : Unpacking Bool Lengths := do
  let part := if n = 0 then 0 else count * (32768 / Bits.count n)
  if l.room < part then throw .broken
  return { l with
    reversed := List.replicate count n ++ l.reversed, room := l.room - part
    last := if n = 0 then l.last else n }

/-- The lengths of so many codes. A run is written as one, and what is written behind it may make it longer. -/
def lengths (c : Code) (size : Nat) : Nat → Lengths → Unpacking Bool (List Nat)
  | 0, _ => throw .broken
  | fuel + 1, l => do
    if l.room = 0 then return l.reversed.reverse
    if size ≤ l.reversed.length then throw .broken
    let s ← c.symbol
    if s < 16 then lengths c size fuel { ← l.add s 1 with run := (l.run.1, 0) }
    else
      let more ← number (s - 14)
      let n := if s = 16 then l.last else 0
      let before := if l.run.1 = n then l.run.2 else 0
      let count := (before - 2) * Bits.count (s - 14) + more + 3
      if size < l.reversed.length + (count - before) then throw .broken
      lengths c size fuel { ← l.add n (count - before) with run := (n, count) }

/-- A code for less than `size` symbols. -/
def code (size : Nat) : Unpacking Bool Code := do
  match ← number 2 with
  | 1 => fewSymbols size
  | skipped =>
    let c ← lengthCode skipped
    sound (Code.ofLengths? (← lengths c size (size + 1) .start))

def codes (size : Nat) : Nat → Unpacking Bool (List Code)
  | 0 => return []
  | n + 1 => do return (← code size) :: (← codes size n)

/-- Entries of a map. A run of zeros is written as one. -/
def mapEntries (c : Code) (runs size : Nat) : Nat → List Nat → Unpacking Bool (List Nat)
  | 0, _ => throw .broken
  | fuel + 1, reversed => do
    if size ≤ reversed.length then return reversed.reverse
    let s ← c.symbol
    if s = 0 then mapEntries c runs size fuel (0 :: reversed)
    else if runs < s then mapEntries c runs size fuel ((s - runs) :: reversed)
    else
      let count := Bits.count s + (← number s)
      if size < reversed.length + count then throw .broken
      mapEntries c runs size fuel (List.replicate count 0 ++ reversed)

/-- Replaces places in a list by what stands there, which then moves to the front. -/
def byPlace : List Nat → List Nat → List Nat
  | _, [] => []
  | list, i :: rest =>
    let n := list.getD i 0
    n :: byPlace (n :: list.eraseIdx i) rest

/-- How many codes there are, and the code for each of `size` contexts. -/
def contextMap (size : Nat) : Unpacking Bool (Nat × Array Nat) := do
  let count ← smallCount
  if count = 1 then return (1, Array.replicate size 0)
  let runs ← if (← number 1) = 0 then pure 0 else (· + 1) <$> number 4
  let c ← code (count + runs)
  let entries ← mapEntries c runs size (size + 1) []
  if (← number 1) = 0 then return (count, entries.toArray)
  return (count, (byPlace (List.range 256) entries).toArray)

end Bearer.Packed.Brotli
