import Bearer.Packed.Bits
/-! Unpacking takes input from the front and adds output at the end. What is done stays done when it stops,
so that output is there also of an input that is cut off. -/

namespace Bearer.Packed

/-- Why unpacking stops. -/
inductive Flaw
  /-- The input is cut off. -/
  | cut
  | broken
  deriving DecidableEq, Repr

structure Work (ι : Type) where
  input : List ι
  output : Array UInt8
  /-- How much output there may be. -/
  most : Nat

abbrev Unpacking (ι : Type) := EStateM Flaw (Work ι)

namespace Unpacking

variable {ι α : Type}

/-- So many pieces of input. -/
def take (n : Nat) : Unpacking ι (List ι) := do
  let front := (← get).input.take n
  if front.length < n then throw .cut
  modify fun w => { w with input := w.input.drop n }
  return front

def push (b : UInt8) : Unpacking ι Unit := do
  let w ← get
  if w.most ≤ w.output.size then throw .broken
  modify fun w => { w with output := w.output.push b }

/-- How much output there is. -/
def size : Unpacking ι Nat := do return (← get).output.size

/-- Repeats so many bytes from so far back, which may run into what is being written. -/
def copy (back : Nat) : Nat → Unpacking ι Unit
  | 0 => return
  | n + 1 => do
    let w ← get
    if w.output.size < back ∨ back = 0 then throw .broken
    push (w.output.getD (w.output.size - back) 0)
    copy back n

/-- What a choice between none and some comes to, none being an error. -/
def sound (x : Option α) : Unpacking ι α :=
  match x with
  | some a => return a
  | none => throw .broken

/-- A number of so many bits, the least of them first. -/
def number (size : Nat) : Unpacking Bool Nat := return value (← take size)

/-- Goes on to the next whole byte. -/
def align : Unpacking Bool Unit := modify fun w => { w with input := flush w.input }

/-- Bytes that pass as they are. What is there of them passes also if the rest is cut off. -/
def pass (n : Nat) : Unpacking Bool Unit := do
  for b in bytes ((← get).input.take (8 * n)) do push b
  let _ ← take (8 * n)

/-- What unpacking comes to: the flaw that stopped it, if any, and how far it got. -/
def run (u : Unpacking ι Unit) (most : Nat) (input : List ι) : Option Flaw × Work ι :=
  match EStateM.run u ⟨input, #[], most⟩ with
  | .ok _ w => (none, w)
  | .error e w => (some e, w)

end Unpacking

end Bearer.Packed
