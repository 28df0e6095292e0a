import Bearer.Packed.Unpacking
/-! Codes without prefixes: the lengths of the codes say it all, since codes of one length follow each other
in the order of their symbols, behind the shorter ones. -/

namespace Bearer.Packed

/-- A code, given by how many symbols have one, two, … bits. -/
structure Code where
  counts : List Nat
  /-- In the order of their codes. -/
  symbols : Array Nat

namespace Code

open Unpacking

/-- The code of symbols with the given lengths, 0 for a symbol that is not in use. Where there are two
symbols or more they fill the code. -/
def ofLengths? (lengths : List Nat) : Option Code :=
  let sizes := (List.range 15).map (· + 1)
  let counts := sizes.map fun size => lengths.count size
  if 1 < counts.foldl (· + ·) 0 ∧ counts.foldl (fun t n => 2 * t + n) 0 ≠ 32768 then none
  else
    let places := lengths.zipIdx
    some ⟨counts, (sizes.flatMap fun size => (places.filter fun p => p.1 == size).map Prod.snd).toArray⟩

/-- Goes from shorter codes to longer ones. The codes of one length follow each other from `first` on, and
their symbols from `place` on. -/
def find (symbols : Array Nat) : List Nat → Nat → Nat → Nat → Unpacking Bool Nat
  | [], _, _, _ => throw .broken
  | n :: counts, first, place, code => do
    let code := 2 * code + (← number 1)
    if code < first + n then sound symbols[place + (code - first)]?
    else find symbols counts (2 * (first + n)) (place + n) code

/-- A code for one symbol, which takes no bits. -/
def only (s : Nat) : Code := ⟨[], #[s]⟩

def symbol (c : Code) : Unpacking Bool Nat :=
  if c.counts.isEmpty then sound c.symbols[0]? else find c.symbols c.counts 0 0 0

end Code

end Bearer.Packed
