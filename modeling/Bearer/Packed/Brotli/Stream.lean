import Bearer.Packed.Brotli.Codes
import Bearer.Packed.Brotli.Context
import Bearer.Packed.Brotli.Forms
import Bearer.Packed.Brotli.Words
/-! The format itself: parts, each of bytes as they are or of commands. A command adds bytes, then repeats a piece from
so far back; from farther back than there is anything come words. -/

namespace Bearer.Packed.Brotli

open Unpacking

/-- Kinds of symbols that take turns, each with codes of its own. -/
structure Turns where
  kinds : Nat
  kindCode : Code
  countCode : Code
  /-- How many symbols of the present kind are left. -/
  left : Nat
  present : Nat
  last : Nat

def counts : List (Nat × Nat) :=
  [(1, 2), (5, 2), (9, 2), (13, 2), (17, 3), (25, 3), (33, 3), (41, 3), (49, 4), (65, 4), (81, 4), (97, 4),
    (113, 5), (145, 5), (177, 5), (209, 5), (241, 6), (305, 6), (369, 7), (497, 8), (753, 9), (1265, 10),
    (2289, 11), (4337, 12), (8433, 13), (16625, 24)]

def Turns.read : Unpacking Bool Turns := do
  let kinds ← smallCount
  if kinds = 1 then return ⟨1, .only 0, .only 0, 0, 0, 1⟩
  let kindCode ← code (kinds + 2)
  let countCode ← code 26
  return ⟨kinds, kindCode, countCode, ← amount counts (← countCode.symbol), 0, 1⟩

/-- The turn of the next symbol. The kind is the one before, the next one, or given. -/
def Turns.next (t : Turns) : Unpacking Bool Turns := do
  if t.kinds = 1 then return t
  if 0 < t.left then return { t with left := t.left - 1 }
  let s ← t.kindCode.symbol
  let kind := match s with
    | 0 => t.last
    | 1 => t.present + 1
    | s => s - 2
  let n ← amount counts (← t.countCode.symbol)
  return { t with
    left := n - 1, last := t.present, present := if t.kinds ≤ kind then kind - t.kinds else kind }

/-- What the commands of a part have in common. -/
structure Part where
  /-- How far back pieces may begin. -/
  reach : Nat
  postfixBits : Nat
  direct : Nat
  modes : Array Nat
  literalMap : Array Nat
  distanceMap : Array Nat
  literalCodes : Array Code
  commandCodes : Array Code
  distanceCodes : Array Code

structure State where
  literals : Turns
  commands : Turns
  distances : Turns
  /-- The last four distances, the latest first. -/
  recent : List Nat

/-- Numbers of bytes that a command adds. -/
def insertions : List (Nat × Nat) :=
  [(0, 0), (1, 0), (2, 0), (3, 0), (4, 0), (5, 0), (6, 1), (8, 1), (10, 2), (14, 2), (18, 3), (26, 3),
    (34, 4), (50, 4), (66, 5), (98, 5), (130, 6), (194, 7), (322, 8), (578, 9), (1090, 10), (2114, 12),
    (6210, 14), (22594, 24)]

/-- Numbers of bytes that it repeats. -/
def repetitions : List (Nat × Nat) :=
  [(2, 0), (3, 0), (4, 0), (5, 0), (6, 0), (7, 0), (8, 0), (9, 0), (10, 1), (12, 1), (14, 2), (18, 2),
    (22, 3), (30, 3), (38, 4), (54, 4), (70, 5), (102, 5), (134, 6), (198, 7), (326, 8), (582, 9),
    (1094, 10), (2118, 24)]

/-- Where the symbols of the two numbers begin in each group of 64 commands. -/
def groups : List (Nat × Nat) :=
  [(0, 0), (0, 8), (0, 0), (0, 8), (8, 0), (8, 8), (0, 16), (16, 0), (8, 16), (16, 8), (16, 16)]

/-- Adds bytes, each in the code of its context. -/
def addLiterals (p : Part) : Nat → Turns → Unpacking Bool Turns
  | 0, t => return t
  | n + 1, t => do
    let t ← t.next
    let w ← get
    let behind (back : Nat) : Nat := if w.output.size < back then 0 else (w.output.getD (w.output.size - back) 0).toNat
    let c := context (p.modes.getD t.present 0) (behind 1) (behind 2)
    let code ← sound p.literalCodes[p.literalMap.getD (64 * t.present + c) 0]?
    push (UInt8.ofNat (← code.symbol))
    addLiterals p n t

/-- How far back a symbol goes: the last distances and their neighbours, some distances on their own, the others by
size. -/
def distance (p : Part) (recent : List Nat) (s : Nat) : Unpacking Bool Nat := do
  if s < 4 then return recent.getD s 0
  else if s < 16 then
    let base := recent.getD ((s - 4) / 6) 0
    let apart := (s - 4) % 6 / 2 + 1
    if s % 2 = 1 then return base + apart
    if base ≤ apart then throw .broken
    return base - apart
  else if s < 16 + p.direct then return s - 15
  else
    let n := s - 16 - p.direct
    let high := n / Bits.count p.postfixBits
    let low := n % Bits.count p.postfixBits
    let bits := 1 + high / 2
    let more ← number bits
    return ((2 + high % 2) * Bits.count bits - 4 + more) * Bits.count p.postfixBits + low + p.direct + 1

/-- The largest distance there is. -/
def mostDistance : Nat := 2147483644

/-- Writes a word in some form: its length, and how far it is behind all that could be repeated. -/
def addWord (length far : Nat) : Unpacking Bool Unit := do
  if length < 4 ∨ 24 < length then throw .broken
  let count := Bits.count (wordBits.getD length 0)
  for b in ← sound (inForm? (far / count) (word length (far % count))) do push b

/-- Repeats a piece, or writes a word. What the distances are then. -/
def repeatPiece (p : Part) (length : Nat) (isUsual : Bool) (s : State) : Unpacking Bool State := do
  let (symbol, turns) ← if isUsual then pure (0, s.distances) else do
    let t ← s.distances.next
    let code ← sound p.distanceCodes[p.distanceMap.getD (4 * t.present + min 3 (length - 2)) 0]?
    pure (← code.symbol, t)
  let back ← distance p s.recent symbol
  let reach := min p.reach (← size)
  if reach < back then
    if mostDistance < back then throw .broken
    addWord length (back - reach - 1)
    return { s with distances := turns }
  else
    copy back length
    return { s with
      distances := turns, recent := if symbol = 0 then s.recent else back :: s.recent.take 3 }

/-- Commands up to the end of the part. -/
def commands (p : Part) (stop : Nat) : Nat → State → Unpacking Bool (List Nat)
  | 0, _ => throw .broken
  | fuel + 1, s => do
    let turns ← s.commands.next
    let code ← sound p.commandCodes[turns.present]?
    let symbol ← code.symbol
    let (insertion, repetition) ← sound groups[symbol / 64]?
    let (n, more) ← sound insertions[insertion + symbol / 8 % 8]?
    let (length, moreLength) ← sound repetitions[repetition + symbol % 8]?
    let n := n + (← number more)
    let length := length + (← number moreLength)
    if stop < (← size) + n then throw .broken
    let literals ← addLiterals p n s.literals
    let s := { s with literals, commands := turns }
    if (← size) = stop then return s.recent
    let s ← repeatPiece p length (symbol < 128) s
    if stop < (← size) then throw .broken
    if (← size) = stop then return s.recent
    commands p stop fuel s

/-- Zeros up to the next whole byte. -/
def padding : Unpacking Bool Unit := do
  if (← take ((← get).input.length % 8)).any id then throw .broken

/-- A part of commands, so many bytes of output. -/
def packedPart (reach size : Nat) (recent : List Nat) : Unpacking Bool (List Nat) := do
  let literals ← Turns.read
  let commandTurns ← Turns.read
  let distances ← Turns.read
  let postfixBits ← number 2
  let direct := (← number 4) * Bits.count postfixBits
  let modes ← (List.range literals.kinds).mapM fun _ => number 2
  let (literalCount, literalMap) ← contextMap (64 * literals.kinds)
  let (distanceCount, distanceMap) ← contextMap (4 * distances.kinds)
  let literalCodes ← codes 256 literalCount
  let commandCodes ← codes 704 commandTurns.kinds
  let distanceCodes ← codes (16 + direct + 48 * Bits.count postfixBits) distanceCount
  let p : Part := ⟨reach, postfixBits, direct, modes.toArray, literalMap, distanceMap, literalCodes.toArray,
    commandCodes.toArray, distanceCodes.toArray⟩
  let w ← get
  commands p (w.output.size + size) (w.input.length + size + 1) ⟨literals, commandTurns, distances, recent⟩

/-- A number in units of so many bits, so many of them. The last unit is not zero if there are more than `least`. -/
def units (bits least count : Nat) : Unpacking Bool Nat := do
  let ns ← (List.range count).mapM fun _ => number bits
  if least < count ∧ ns.getLast? = some 0 then throw .broken
  return ns.foldr (fun n v => n + Bits.count bits * v) 0

/-- Something to be passed over: its length, then as many bytes. -/
def skipped : Unpacking Bool Unit := do
  if (← number 1) = 1 then throw .broken
  let bytes ← number 2
  let n ← if bytes = 0 then pure 0 else (· + 1) <$> units 8 1 bytes
  padding
  let _ ← take (8 * n)

/-- Parts up to the last one. -/
def parts (reach : Nat) : Nat → List Nat → Unpacking Bool Unit
  | 0, _ => throw .broken
  | fuel + 1, recent => do
    let isLast := (← number 1) = 1
    if isLast then
      if (← number 1) = 1 then return
    let nibbles ← number 2
    let recent ← if nibbles = 3 then do
        skipped
        pure recent
      else do
        let n := (← units 4 4 (nibbles + 4)) + 1
        let isPlain ← if isLast then pure false else (· == 1) <$> number 1
        if isPlain then
          padding
          pass n
          pure recent
        else packedPart reach n recent
    if isLast then return else parts reach fuel recent

/-- How many bits the window has. -/
def windowBits : Unpacking Bool Nat := do
  if (← number 1) = 0 then return 16
  let n ← number 3
  if n ≠ 0 then return 17 + n
  match ← number 3 with
  | 0 => return 17
  | 1 => throw .broken
  | m => return 8 + m

def stream (fuel : Nat) : Unpacking Bool Unit := do
  let bits ← windowBits
  parts (Bits.count bits - 16) fuel [4, 11, 15, 16]
  padding

/-- What was packed, with nothing behind it. The end may be missing, and then counts what is there. -/
def unpack? (most : Nat) (bs : List UInt8) : Option (List UInt8) :=
  match (stream (8 * bs.length + 1)).run most (bits bs) with
  | (none, w) => if w.input.isEmpty then some w.output.toList else none
  | (some .cut, w) => some w.output.toList
  | (some .broken, _) => none

example : unpack? 9 [0x8b, 0x00, 0x80, 97, 98, 3] = some [97, 98] := by decide +kernel

end Bearer.Packed.Brotli
