import Bearer.Json.Value
import Bearer.Text.Hex
import Bearer.Text.Utf8
/-! Reading JSON. The input is a list of characters in which a stray byte stands as `none`. Strings are
read as pieces first, so that half a surrogate pair or a stray byte spoils only the value it is in. -/

namespace Bearer.Json

/-- What a string is read from: characters, halves of surrogate pairs, stray bytes. -/
inductive Piece
  | char (c : Char)
  | half (n : Nat)
  | stray
  deriving DecidableEq, Repr

/-- The text of pieces, a high half joined with the low half after it. -/
def join? : List Piece → Option (List Char)
  | [] => some []
  | .char c :: rest => (join? rest).map (c :: ·)
  | .half high :: .half low :: rest =>
    if high < 0xdc00 ∧ 0xdc00 ≤ low then
      (join? rest).map (Char.ofNat (0x10000 + (high - 0xd800) * 0x400 + (low - 0xdc00)) :: ·)
    else none
  | .half _ :: _ => none
  | .stray :: _ => none

/-- Whether pieces without a text are read to their end. Half a pair is noticed where the other half should
be; a high half at the end is noticed only with the closing quote, a stray byte behind it. -/
def isReadThrough : List Piece → Bool
  | [] => true
  | .char _ :: rest => isReadThrough rest
  | .stray :: rest => isReadThrough rest
  | [.half n] => n < 0xdc00
  | .half high :: .half low :: rest => high < 0xdc00 && 0xdc00 ≤ low && isReadThrough rest
  | .half _ :: _ => false

def letterEscape? : Char → Option Char
  | '"' => some '"'
  | '\\' => some '\\'
  | '/' => some '/'
  | 'b' => some '\x08'
  | 'f' => some '\x0c'
  | 'n' => some '\x0a'
  | 'r' => some '\x0d'
  | 't' => some '\x09'
  | _ => none

/-- The piece that four hexadecimal digits name. -/
def unitEscape? (a b c d : Char) : Option Piece := do
  let n ← Hex.number? [a, b, c, d]
  some (if 0xd800 ≤ n ∧ n < 0xe000 then .half n else .char (Char.ofNat n))

/-- The pieces up to the closing quote, and what follows it. -/
def pieces : List (Option Char) → Option (List Piece × List (Option Char))
  | some '"' :: rest => some ([], rest)
  | some '\\' :: some 'u' :: some a :: some b :: some c :: some d :: rest => do
    let p ← unitEscape? a b c d
    let (ps, rest) ← pieces rest
    some (p :: ps, rest)
  | some '\\' :: some e :: rest => do
    let c ← letterEscape? e
    let (ps, rest) ← pieces rest
    some (.char c :: ps, rest)
  | some c :: rest =>
    if c = '\\' ∨ c.toNat < 32 then none
    else (pieces rest).map fun (ps, rest) => (.char c :: ps, rest)
  | none :: rest => (pieces rest).map fun (ps, rest) => (.stray :: ps, rest)
  | [] => none

def isSpace (c : Option Char) : Bool :=
  c == some ' ' || c == some '\t' || c == some '\n' || c == some '\r'

def skip (cs : List (Option Char)) : List (Option Char) := cs.dropWhile isSpace

def isDigit : Option Char → Bool
  | some c => c.isDigit
  | none => false

def digitRun (cs : List (Option Char)) : List Char × List (Option Char) :=
  ((cs.takeWhile isDigit).filterMap id, cs.dropWhile isDigit)

def natOf (ds : List Char) : Nat := ds.foldl (fun n c => 10 * n + (c.toNat - 48)) 0

/-- Digits without a needless zero in front. -/
def whole? (cs : List (Option Char)) : Option (Nat × List (Option Char)) :=
  match digitRun cs with
  | ([], _) => none
  | (['0'], rest) => some (0, rest)
  | ('0' :: _, _) => none
  | (ds, rest) => some (natOf ds, rest)

/-- The digits after a point, if there is one. -/
def fraction? (cs : List (Option Char)) : Option (Option (List Char) × List (Option Char)) :=
  match cs with
  | some '.' :: rest =>
    match digitRun rest with
    | ([], _) => none
    | (ds, rest) => some (some ds, rest)
  | rest => some (none, rest)

/-- The power of ten, if there is one. -/
def exponent? (cs : List (Option Char)) : Option (Option Int × List (Option Char)) :=
  let after (rest : List (Option Char)) : Option (Option Int × List (Option Char)) :=
    let (negative, rest) := match rest with
      | some '-' :: r => (true, r)
      | some '+' :: r => (false, r)
      | r => (false, r)
    match digitRun rest with
    | ([], _) => none
    | (ds, rest) => some (some (if negative then -(natOf ds : Int) else natOf ds), rest)
  match cs with
  | some 'e' :: rest => after rest
  | some 'E' :: rest => after rest
  | rest => some (none, rest)

def numeral? (cs : List (Option Char)) : Option (Numeral × List (Option Char)) := do
  let (negative, cs) := match cs with
    | some '-' :: rest => (true, rest)
    | rest => (false, rest)
  let (n, cs) ← whole? cs
  let (f, cs) ← fraction? cs
  let (e, cs) ← exponent? cs
  some (⟨negative, n, f, e⟩, cs)

/-- The text that pieces make. -/
def textOf (ps : List Piece) : Json :=
  match join? ps with
  | some cs => str (String.ofList cs)
  | none => garbled (isReadThrough ps)

/-- An object as far as its keys are text. -/
def objectOf (members : List (Option String × Json)) : Json :=
  match members.mapM fun (k, v) => k.map (·, v) with
  | some ms => obj ms
  | none => garbled false

mutual

/-- A value at the front of a text and what follows it. Each nested call is entered with less text, so
twice the length is fuel enough. -/
def value? : Nat → List (Option Char) → Option (Json × List (Option Char))
  | 0, _ => none
  | fuel + 1, cs =>
    match skip cs with
    | some 'n' :: some 'u' :: some 'l' :: some 'l' :: rest => some (null, rest)
    | some 't' :: some 'r' :: some 'u' :: some 'e' :: rest => some (bool true, rest)
    | some 'f' :: some 'a' :: some 'l' :: some 's' :: some 'e' :: rest => some (bool false, rest)
    | some '"' :: rest =>
      (pieces rest).map fun (ps, rest) => (textOf ps, rest)
    | some '[' :: rest =>
      match skip rest with
      | some ']' :: rest => some (arr [], rest)
      | rest => (items? fuel rest).map fun (xs, rest) => (arr xs, rest)
    | some '\x7b' :: rest =>
      match skip rest with
      | some '\x7d' :: rest => some (obj [], rest)
      | rest => (members? fuel rest).map fun (ms, rest) => (objectOf ms, rest)
    | rest => (numeral? rest).map fun (n, rest) => (num n, rest)

/-- One or more values up to the closing bracket. -/
def items? : Nat → List (Option Char) → Option (List Json × List (Option Char))
  | 0, _ => none
  | fuel + 1, cs =>
    match value? fuel cs with
    | none => none
    | some (x, rest) =>
      match skip rest with
      | some ',' :: rest => (items? fuel rest).map fun (xs, rest) => (x :: xs, rest)
      | some ']' :: rest => some ([x], rest)
      | _ => none

/-- One or more members up to the closing brace. -/
def members? : Nat → List (Option Char) → Option (List (Option String × Json) × List (Option Char))
  | 0, _ => none
  | fuel + 1, cs =>
    match skip cs with
    | some '"' :: rest =>
      match pieces rest with
      | none => none
      | some (k, rest) =>
        match skip rest with
        | some ':' :: rest =>
          match value? fuel rest with
          | none => none
          | some (v, rest) =>
            match skip rest with
            | some ',' :: rest => (members? fuel rest).map fun (ms, rest) => (((textOf k).text?, v) :: ms, rest)
            | some '\x7d' :: rest => some ([((textOf k).text?, v)], rest)
            | _ => none
        | _ => none
    | _ => none

end

/-- The value that a text consists of, blanks around it aside. -/
def read? (cs : List (Option Char)) : Option Json := do
  let (j, rest) ← value? (2 * cs.length + 2) cs
  if (skip rest).isEmpty then some j else none

def parse? (s : String) : Option Json := read? (s.toList.map some)

def ofBytes? (bs : List UInt8) : Option Json := read? (Utf8.decode bs)

end Bearer.Json
