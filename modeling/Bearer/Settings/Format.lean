import Bearer.Bits
import Bearer.Json.Record
/-! Taking settings out of a document. The notation says what a record, a text or a number is; which fields
a section has is said once for all notations. -/

namespace Bearer.Settings

/-- What a notation makes of the parts of a document `δ`. -/
structure Format (δ : Type) where
  /-- The fields of a record that has these names. -/
  record? : List String → δ → Option (List (String × δ))
  text? : δ → Option String
  flag? : δ → Option Bool
  /-- A number of so many bits. -/
  unsigned? : Nat → δ → Option Nat
  /-- A number of 64 bits, one of them for the sign. -/
  signed? : δ → Option Int
  /-- The name of a case. -/
  caseName? : δ → Option String
  isAbsent : δ → Bool

namespace Format

variable {δ α : Type}

def required (fields : List (String × δ)) (name : String) (read : δ → Option α) : Option α :=
  (fields.lookup name).bind read

def defaulted (fields : List (String × δ)) (name : String) (default : α) (read : δ → Option α) :
    Option α :=
  match fields.lookup name with
  | some d => read d
  | none => some default

/-- Something that may be absent. -/
def nullable (f : Format δ) (read : δ → Option α) (d : δ) : Option (Option α) :=
  if f.isAbsent d then some none else (read d).map some

/-- JSON gives numbers only as what they are. -/
def json : Format Json where
  record? names j := (j.record? names).map Json.Record.fields
  text? := Json.text?
  flag? := Json.bool?
  unsigned? bits := Json.nat? (Bits.count bits - 1)
  signed? := Json.int? (Bits.least 64) (Bits.count 63 - 1)
  caseName? := Json.caseName?
  isAbsent j := j matches .null

end Format

end Bearer.Settings
