/-! Contexts: which code a byte is in depends on the two bytes before it. -/

namespace Bearer.Packed.Brotli

/-- Kinds of characters, for the byte before. -/
def letterKinds : List Nat := [
  0, 0, 0, 0, 0, 0, 0, 0, 0, 4, 4, 0, 0, 4, 0, 0, 0, 0, 0, 0, 0, 0, 0, 0, 0, 0, 0, 0, 0, 0, 0, 0,
  8, 12, 16, 12, 12, 20, 12, 16, 24, 28, 12, 12, 32, 12, 36, 12,
  44, 44, 44, 44, 44, 44, 44, 44, 44, 44, 32, 32, 24, 40, 28, 12,
  12, 48, 52, 52, 52, 48, 52, 52, 52, 48, 52, 52, 52, 52, 52, 48,
  52, 52, 52, 52, 52, 48, 52, 52, 52, 52, 52, 24, 12, 28, 12, 12,
  12, 56, 60, 60, 60, 56, 60, 60, 60, 56, 60, 60, 60, 60, 60, 56,
  60, 60, 60, 60, 60, 56, 60, 60, 60, 60, 60, 24, 12, 28, 12, 0]

def letterKind (b : Nat) : Nat :=
  if b < 128 then letterKinds.getD b 0 else if b < 192 then b % 2 else 2 + b % 2

/-- Rougher kinds, for the byte before that. -/
def roughKind (b : Nat) : Nat :=
  if b < 33 then 0 else if b < 48 then 1 else if b < 58 then 2 else if b < 65 then 1
  else if b < 91 then 2 else if b < 97 then 1 else if b < 123 then 3 else if b < 127 then 1
  else if b < 224 then 0 else 2

/-- How far a byte is from zero, as a number with a sign. -/
def magnitude (b : Nat) : Nat :=
  if b = 0 then 0 else if b < 16 then 1 else if b < 64 then 2 else if b < 128 then 3
  else if b < 192 then 4 else if b < 240 then 5 else if b < 255 then 6 else 7

/-- The context of a byte in one of four modes, by the byte before it and the one before that. -/
def context (mode last before : Nat) : Nat :=
  match mode with
  | 0 => last % 64
  | 1 => last / 4
  | 2 => letterKind last + roughKind before
  | _ => 8 * magnitude last + magnitude before

end Bearer.Packed.Brotli
