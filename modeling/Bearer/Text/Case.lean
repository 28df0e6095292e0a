/-! Blank characters and letter case, as far as names in settings need them. -/

namespace Bearer.Text

/-- The characters that Unicode counts as white space. -/
def isBlank (c : Char) : Bool :=
  let n := c.toNat
  (9 ≤ n && n ≤ 13) || n == 32 || n == 0x85 || n == 0xa0 || n == 0x1680
    || (0x2000 ≤ n && n ≤ 0x200a) || n == 0x2028 || n == 0x2029 || n == 0x202f || n == 0x205f
    || n == 0x3000

def trim (s : String) : String :=
  String.ofList ((s.toList.dropWhile isBlank).reverse.dropWhile isBlank).reverse

def lowerAscii (s : String) : String := String.ofList (s.toList.map Char.toLower)

/-- Lower case as far as it can give an ASCII letter: besides the capitals only the Kelvin sign
has an ASCII letter as its lower case. -/
def lower (s : String) : String :=
  String.ofList (s.toList.map fun c => if c.toNat = 0x212a then 'k' else c.toLower)

end Bearer.Text
