import Bearer.Toml.Numbers
import Bearer.Toml.Strings
/-! Values and lines of TOML. -/

namespace Bearer.Toml

inductive Value
  | text (s : String)
  | number (n : Number)
  | flag (b : Bool)
  | time (s : String)
  | array (items : List Value)
  | table (entries : List (String × Value))
  /-- A table that exists because of a key with points. Only keys with points add to it. -/
  | dotted (entries : List (String × Value))
  deriving Inhabited

abbrev Entries := List (String × Value)

/-- Enters a value under a key with points. -/
def add? (value : Value) : List String → Entries → Option Entries
  | [], _ => none
  | [k], es => some (es ++ [(k, value)])
  | k :: ks, es =>
    match es.find? fun e => e.1 == k with
    | none => (add? value ks []).map fun inner => es ++ [(k, .dotted inner)]
    | some (_, .dotted inner) =>
      (add? value ks inner).map fun inner =>
        es.map fun e => if e.1 == k then (k, .dotted inner) else e
    | some _ => none

def pad (cs : List Char) : List Char := cs.dropWhile isPad

/-- The characters of a bare key, also of numbers and words. -/
def isBare (c : Char) : Bool := c.isAlphanum || c == '_' || c == '-'

/-- A bare key or a string on one line. -/
def keyPart? (cs : List Char) : Option (String × List Char) :=
  match cs with
  | '"' :: rest => quoted (string? .basic rest)
  | '\'' :: rest => quoted (string? .literal rest)
  | cs =>
    let name := cs.takeWhile isBare
    if name.isEmpty then none else some (String.ofList name, cs.drop name.length)
where
  quoted : Option ((String × Bool) × List Char) → Option (String × List Char)
    | some ((s, false), rest) => some (s, rest)
    | _ => none

/-- A key with points; the fuel is the length of the text. -/
def keyParts? : Nat → List Char → Option (List String × List Char)
  | 0, _ => none
  | fuel + 1, cs => do
    let (k, rest) ← keyPart? cs
    match pad rest with
    | '.' :: rest => (keyParts? fuel (pad rest)).map fun (ks, rest) => (k :: ks, rest)
    | rest => some ([k], rest)

def key? (cs : List Char) : Option (List String × List Char) := keyParts? (cs.length + 1) cs

/-- What is behind a line's end, blanks and a comment before it aside. -/
def lineEnd? (cs : List Char) : Option (List Char) :=
  let rest := match pad cs with
    | '#' :: rest => rest.dropWhile fun c => c == '\t' || 32 ≤ c.toNat
    | rest => rest
  match rest with
  | [] => some []
  | '\n' :: rest => some rest
  | _ => none

/-- Passes over blanks, comments and line ends; the fuel is the length of the text. -/
def gap? : Nat → List Char → Option (List Char)
  | 0, cs => some cs
  | fuel + 1, cs =>
    match pad cs with
    | '#' :: rest => (lineEnd? ('#' :: rest)).bind (gap? fuel)
    | '\n' :: rest => gap? fuel rest
    | rest => some rest

/-- Whether a word is the beginning of a time. -/
def beginsTime (word rest : List Char) : Bool :=
  word.contains 'T' || word.contains 't' || rest.head? == some ':'
    || ((word.drop 1).contains '-' && !hasSmallPower word)
where
  hasSmallPower : List Char → Bool
    | 'e' :: '-' :: _ => true
    | 'E' :: '-' :: _ => true
    | _ :: rest => hasSmallPower rest
    | [] => false

def isTimeChar (c : Char) : Bool := isBare c || c == ':' || c == '.' || c == '+'

/-- A time at the front of a text; a blank may part date and clock time. -/
def timeAt? (cs : List Char) : Option (Value × List Char) :=
  let first := cs.takeWhile isTimeChar
  let rest := cs.drop first.length
  let second := match rest with
    | ' ' :: more => if more.head?.any isBare then ' ' :: more.takeWhile isTimeChar else []
    | _ => []
  (time? (first ++ second)).map fun s => (.time s, rest.drop second.length)

/-- The characters of the number at the front of a text. A sign stands in front or behind a letter e. -/
def numberChars (cs : List Char) : List Char :=
  let lead := match cs with
    | '+' :: _ => 1
    | _ => 0
  let word := (cs.drop lead).takeWhile isBare
  let size := lead + word.length
  let size := match cs.drop size with
    | '.' :: rest => size + 1 + (rest.takeWhile isBare).length
    | _ => size
  let endsInPower := (cs.take size).getLast?.any fun c => c == 'e' || c == 'E'
  let isBased := word.take 2 == ['0', 'x']
  let size := match cs.drop size with
    | '+' :: rest =>
      if endsInPower && !isBased then size + 1 + (rest.takeWhile isBare).length else size
    | _ => size
  cs.take size

/-- A value that is written as a single word. -/
def word? (cs : List Char) : Option (Value × List Char) :=
  let word := cs.takeWhile isBare
  let rest := cs.drop word.length
  if word = "true".toList then some (.flag true, rest)
  else if word = "false".toList then some (.flag false, rest)
  else if word.isEmpty ∧ cs.head? ≠ some '+' then none
  else if beginsTime word rest ∧ word.head?.any (fun c => c.isDigit || c == '-') then timeAt? cs
  else
    let chars := numberChars cs
    (number? chars).map fun n => (.number n, cs.drop chars.length)

mutual

/-- A value at the front of a text. Each nested call is entered with less text, so twice the length is fuel
enough. -/
def value? : Nat → List Char → Option (Value × List Char)
  | 0, _ => none
  | fuel + 1, cs =>
    match cs with
    | '"' :: rest => (string? .basic rest).map fun ((s, _), rest) => (.text s, rest)
    | '\'' :: rest => (string? .literal rest).map fun ((s, _), rest) => (.text s, rest)
    | '[' :: rest => (items? fuel rest).map fun (xs, rest) => (.array xs, rest)
    | '\x7b' :: rest =>
      match pad rest with
      | '\x7d' :: rest => some (.table [], rest)
      | rest => (pairs? fuel [] rest).map fun (es, rest) => (.table es, rest)
    | cs => word? cs

/-- Items up to the closing bracket, on as many lines as they like; a comma may follow the last one. -/
def items? : Nat → List Char → Option (List Value × List Char)
  | 0, _ => none
  | fuel + 1, cs =>
    match gap? cs.length cs with
    | none => none
    | some (']' :: rest) => some ([], rest)
    | some rest =>
      match value? fuel rest with
      | none => none
      | some (x, rest) =>
        match gap? rest.length rest with
        | some (',' :: rest) => (items? fuel rest).map fun (xs, rest) => (x :: xs, rest)
        | some (']' :: rest) => some ([x], rest)
        | _ => none

/-- One or more entries up to the closing brace, all on one line. -/
def pairs? : Nat → Entries → List Char → Option (Entries × List Char)
  | 0, _, _ => none
  | fuel + 1, es, cs =>
    match key? cs with
    | some (ks, '=' :: rest) =>
      match value? fuel (pad rest) with
      | none => none
      | some (v, rest) =>
        match add? v ks es, pad rest with
        | some es, '\x7d' :: rest => some (es, rest)
        | some es, ',' :: rest => pairs? fuel es (pad rest)
        | _, _ => none
    | _ => none

end

inductive Line
  | pair (keys : List String) (value : Value)
  /-- The name of the table, or of the item of an array of tables, that begins here. -/
  | header (keys : List String) (isItem : Bool)

def header? (cs : List Char) : Option (Line × List Char) := do
  let (isItem, cs) := match cs with
    | '[' :: rest => (true, rest)
    | rest => (false, rest)
  let (ks, rest) ← key? (pad cs)
  let rest ← mark? ']' rest
  let rest ← if isItem then mark? ']' rest else some rest
  some (.header ks isItem, ← lineEnd? rest)

def pair? (cs : List Char) : Option (Line × List Char) := do
  let (ks, rest) ← key? cs
  let rest ← mark? '=' rest
  let (v, rest) ← value? (2 * rest.length + 2) (pad rest)
  some (.pair ks v, ← lineEnd? rest)

/-- The lines of a text; the fuel is its length. -/
def lines? : Nat → List Char → Option (List Line)
  | 0, _ => some []
  | fuel + 1, cs =>
    match gap? cs.length cs with
    | none => none
    | some [] => some []
    | some rest => do
      let (l, rest) ← match rest with
        | '[' :: more => header? more
        | rest => pair? rest
      (lines? fuel rest).map (l :: ·)

end Bearer.Toml
