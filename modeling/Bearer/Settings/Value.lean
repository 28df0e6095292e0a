import Bearer.Bits
import Bearer.Decimal.Shortest
import Bearer.Settings.Format
import Bearer.Store.Table
import Bearer.Text.Case
import Bearer.Text.Number
/-! Settings as they are layered: values without fixed types, and tables that are merged key by key. Whoever
takes a setting out says what he wants it to be, and it is converted: text that writes a number is one, a
number or a flag has a text, and what is too long for a number of so many bits loses its high ones. -/

namespace Bearer.Settings

inductive Value
  | nil
  | flag (b : Bool)
  /-- A number of 64 bits with a sign. -/
  | int (n : Int)
  | float (x : Binary64)
  | text (s : String)
  | array (items : List Value)
  | table (entries : List (String × Value))
  deriving Inhabited

namespace Value

abbrev Entries := List (String × Value)

/-- The entries of a table; anything else counts as an empty one. -/
def entries : Value → Entries
  | table es => es
  | _ => []

mutual

/-- Sets a key. A table is merged into what is there, any other value replaces it; an empty table changes
nothing that is there. -/
def setKey (es : Entries) (key : String) : Value → Entries
  | table [] => if (Pairs.at? key es).isSome then es else Pairs.put key (table []) es
  | table (e :: rest) =>
    Pairs.put key (table (setKeys ((Pairs.at? key es).getD nil).entries (e :: rest))) es
  | v => Pairs.put key v es

def setKeys (es : Entries) : List (String × Value) → Entries
  | [] => es
  | (k, v) :: rest => setKeys (setKey es k v) rest

end

/-! Conversions. -/

/-- The nearest number between bounds. -/
def clamp (low high n : Int) : Int := max low (min high n)

/-- A flag that is written as a word. -/
def word? (s : String) : Option Bool :=
  match Text.lower s with
  | "true" | "on" | "yes" => some true
  | "false" | "off" | "no" => some false
  | _ => none

/-- A number between bounds. Fractions are rounded, and so is what lies beyond the bounds; what is no number
at all is 0. -/
def number? (low high : Int) (read : String → Option Int) : Value → Option Int
  | int n => if low ≤ n ∧ n ≤ high then some n else none
  | flag b => some b.toNat
  | float x =>
    some (match x with
      | .nan => 0
      | .infinite negative => if negative then low else high
      | x => clamp low high (x.round.getD 0))
  | text s =>
    match word? s with
    | some b => some b.toNat
    | none => read s
  | _ => none

def signed? (v : Value) : Option Int :=
  number? (Bits.least 64) (Bits.count 63 - 1) (Text.signed? 64) v

/-- The low bits of a number that is not negative. -/
def unsigned? (bits : Nat) (v : Value) : Option Nat :=
  (number? 0 (Bits.count 64 - 1) (fun s => (Text.unsigned? 64 s).map fun n => (n : Int)) v).map
    fun n => n.toNat % Bits.count bits

def flag? : Value → Option Bool
  | flag b => some b
  | int n => some (n ≠ 0)
  | float x => some !x.isZero
  | text s => if s = "1" then some true else if s = "0" then some false else word? s
  | _ => none

def text? : Value → Option String
  | text s => some s
  | flag b => some (if b then "true" else "false")
  | int n => some (toString n)
  | float x => some x.plainText
  | _ => none

/-- The name of a case is a text, or the one key of a table. -/
def caseName? : Value → Option String
  | text s => some s
  | table [(k, _)] => some k
  | _ => none

/-- An array holds the fields in their order; there may be more items than fields. -/
def record? (names : List String) : Value → Option (List (String × Value))
  | table es => some es
  | array items => some (names.zip items)
  | _ => none

def format : Format Value where
  record? := record?
  text? := text?
  flag? := flag?
  unsigned? := unsigned?
  signed? := signed?
  caseName? := caseName?
  isAbsent v := v matches nil

/-! Documents as layers. -/

mutual

/-- A document as a layer. Numbers must fit 63 bits. -/
def ofJson? : Json → Option Value
  | .null => some nil
  | .bool b => some (flag b)
  | .num n =>
    (n.toInt?.filter (Bits.isSigned 64)).map int
  | .str s => some (text s)
  | .arr items => (ofItems? items).map array
  | .obj members => (ofMembers? members).map table
  | .garbled _ => none

def ofItems? : List Json → Option (List Value)
  | [] => some []
  | x :: xs => do
    let v ← ofJson? x
    let vs ← ofItems? xs
    some (v :: vs)

def ofMembers? : List (String × Json) → Option (List (String × Value))
  | [] => some []
  | (k, x) :: xs => do
    let v ← ofJson? x
    let vs ← ofMembers? xs
    some ((k, v) :: vs)

end

end Value

end Bearer.Settings
