import Bearer.Text.Hex
import Bearer.Text.Utf8
/-! Bytes written as a percent sign and two hexadecimal digits. -/

namespace Bearer.Percent

/-- The byte that two digits name. -/
def escaped? (high low : UInt8) : Option UInt8 := do
  let h ← Hex.value? (Char.ofNat high.toNat)
  let l ← Hex.value? (Char.ofNat low.toNat)
  some (UInt8.ofNat (16 * h + l))

/-- Puts in the bytes that are written so, all but the ones to keep written. What is no byte stays. -/
def unescape (keep : UInt8 → Bool) : List UInt8 → List UInt8
  | 37 :: high :: low :: rest =>
    match escaped? high low with
    | some b => if keep b then 37 :: high :: low :: unescape keep rest else b :: unescape keep rest
    | none => 37 :: unescape keep (high :: low :: rest)
  | b :: rest => b :: unescape keep rest
  | [] => []

def bytes (cs : List Char) : List UInt8 := unescape (fun _ => false) (Utf8.encode cs)

/-- The text that the bytes are, if they are one. -/
def text? (cs : List Char) : Option String := Utf8.text? (bytes cs)

end Bearer.Percent
