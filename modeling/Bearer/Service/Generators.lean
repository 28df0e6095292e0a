import Bearer.Text.Hex
import Bearer.Uuid
/-! Values that nobody can guess, made of bytes drawn at random. -/

namespace Bearer

namespace Uuid

/-- An identifier of version 4: all bits but the six that say so are random. -/
def ofRandom (bits : BitVec 128) : Uuid :=
  ⟨(bits &&& ~~~(0xf#128 <<< 76) &&& ~~~(0x3#128 <<< 62)) ||| (0x4#128 <<< 76) ||| (0x2#128 <<< 62)⟩

end Uuid

/-- A refresh value has two digits for each byte. -/
def refreshValue (bytes : List UInt8) : String := Hex.encode bytes

theorem length_refreshValue (bytes : List UInt8) : (refreshValue bytes).length = 2 * bytes.length := by
  induction bytes with
  | nil => rfl
  | cons b bs ih =>
    simp only [refreshValue, Hex.encode, Hex.ofByte, List.flatMap_cons, String.length_ofList,
      List.length_append, List.length_cons, List.length_nil] at ih ⊢
    omega

end Bearer
