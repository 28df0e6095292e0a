/-! Bytes as text. A byte that begins no well-formed character stands as `none`, so that a reader
can pass over it where it only skips and refuse it where it keeps. `decode_encode` says that text
sent as bytes is read back character by character. -/

namespace Bearer.Utf8

def encode (cs : List Char) : List UInt8 := cs.flatMap String.utf8EncodeChar

def bytes (s : String) : List UInt8 := encode s.toList

/-- The character that the bytes begin with; four bytes are enough to tell. -/
def first? (bs : List UInt8) : Option Char := (bs.take 4).toByteArray.utf8DecodeChar? 0

def decode (bs : List UInt8) : List (Option Char) :=
  match bs with
  | [] => []
  | b :: rest =>
    match first? (b :: rest) with
    | some c => some c :: decode ((b :: rest).drop c.utf8Size)
    | none => none :: decode rest
termination_by bs.length
decreasing_by
  · have := c.utf8Size_pos
    simp only [List.length_drop, List.length_cons]
    omega
  · simp

/-- The text of bytes that are well formed throughout. -/
def text? (bs : List UInt8) : Option String :=
  ((decode bs).mapM id).map String.ofList

theorem first?_encodeChar (c : Char) (rest : List UInt8) :
    first? (String.utf8EncodeChar c ++ rest) = some c := by
  have hlen : (String.utf8EncodeChar c).length = c.utf8Size := by simp
  have hle := c.utf8Size_le_four
  have htake : (String.utf8EncodeChar c ++ rest).take 4
      = String.utf8EncodeChar c ++ rest.take (4 - c.utf8Size) := by
    rw [List.take_append, hlen, List.take_of_length_le (by omega)]
  have h := @List.utf8DecodeChar?_utf8Encode_singleton_append
    (rest.take (4 - c.utf8Size)).toByteArray c
  rw [List.utf8Encode_singleton] at h
  rw [first?, htake, List.toByteArray_append]
  exact h

theorem decode_encodeChar_append (c : Char) (rest : List UInt8) :
    decode (String.utf8EncodeChar c ++ rest) = some c :: decode rest := by
  have hlen : (String.utf8EncodeChar c).length = c.utf8Size := by simp
  have hpos := c.utf8Size_pos
  have hf := first?_encodeChar c rest
  cases hb : String.utf8EncodeChar c ++ rest with
  | nil =>
    have := congrArg List.length hb
    simp at this
    omega
  | cons b bs =>
    rw [hb] at hf
    rw [decode, hf]
    simp only
    rw [← hb, List.drop_append, hlen, List.drop_of_length_le (by omega)]
    simp

theorem decode_encode (cs : List Char) : decode (encode cs) = cs.map some := by
  induction cs with
  | nil => simp [encode, decode]
  | cons c cs ih =>
    rw [encode, List.flatMap_cons, decode_encodeChar_append, ← encode, ih, List.map_cons]

end Bearer.Utf8
