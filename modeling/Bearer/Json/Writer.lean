import Bearer.Json.Value
import Bearer.Text.Hex
/-! Compact JSON text. Of the characters in a string only the quote, the backslash and the control
characters are escaped, five of the latter by a letter. -/

namespace Bearer.Json

def escape (c : Char) : List Char :=
  if c = '"' then ['\\', '"']
  else if c = '\\' then ['\\', '\\']
  else if c = '\x08' then ['\\', 'b']
  else if c = '\x09' then ['\\', 't']
  else if c = '\x0a' then ['\\', 'n']
  else if c = '\x0c' then ['\\', 'f']
  else if c = '\x0d' then ['\\', 'r']
  else if c.toNat < 32 then
    ['\\', 'u', '0', '0', Hex.digit (c.toNat / 16), Hex.digit (c.toNat % 16)]
  else [c]

def quoted (s : List Char) : List Char := '"' :: s.flatMap escape ++ ['"']

def digits (n : Nat) : List Char := (toString n).toList

def numeralChars (n : Numeral) : List Char :=
  (if n.negative then ['-'] else []) ++ digits n.whole
    ++ (match n.fraction with
      | none => []
      | some ds => '.' :: ds)
    ++ (match n.exponent with
      | none => []
      | some e => 'e' :: (if 0 ≤ e then ['+'] else []) ++ (toString e).toList)

mutual

def chars : Json → List Char
  | null => "null".toList
  | bool true => "true".toList
  | bool false => "false".toList
  | num n => numeralChars n
  | str s => quoted s.toList
  | arr items => '[' :: itemChars items
  | obj members => '\x7b' :: memberChars members
  | garbled _ => "null".toList

/-- The items and the closing bracket. -/
def itemChars : List Json → List Char
  | [] => [']']
  | [x] => chars x ++ [']']
  | x :: xs => chars x ++ ',' :: itemChars xs

/-- The members and the closing brace. -/
def memberChars : List (String × Json) → List Char
  | [] => ['\x7d']
  | [(k, v)] => quoted k.toList ++ ':' :: chars v ++ ['\x7d']
  | (k, v) :: ms => quoted k.toList ++ ':' :: chars v ++ ',' :: memberChars ms

end

def write (j : Json) : String := String.ofList j.chars

end Bearer.Json
