import Bearer.Text.Hex
/-! Strings of TOML: in single quotes as they stand, in double quotes with escapes, in three quotes of either
kind over several lines. Line ends are line feeds here. -/

namespace Bearer.Toml

inductive Quote
  | literal
  | basic
  deriving DecidableEq

def Quote.mark : Quote → Char
  | literal => '\''
  | basic => '"'

/-- Control characters other than the tab are not allowed. -/
def isAllowed (c : Char) : Bool := c == '\t' || (32 ≤ c.toNat && c.toNat ≠ 127)

def letterEscape? : Char → Option Char
  | '"' => some '"'
  | '\\' => some '\\'
  | 'b' => some '\x08'
  | 'f' => some '\x0c'
  | 'n' => some '\n'
  | 'r' => some '\x0d'
  | 't' => some '\t'
  | _ => none

/-- The character with a number in hexadecimal digits. -/
def numbered? (digits : List Char) : Option Char := do
  let n ← Hex.number? digits
  if n < 0xd800 ∨ (0xdfff < n ∧ n ≤ 0x10ffff) then some (Char.ofNat n) else none

/-- What an escape stands for, and what is behind it. -/
def escape? : List Char → Option (Char × List Char)
  | 'u' :: rest => if rest.length < 4 then none else (numbered? (rest.take 4)).map (·, rest.drop 4)
  | 'U' :: rest => if rest.length < 8 then none else (numbered? (rest.take 8)).map (·, rest.drop 8)
  | c :: rest => (letterEscape? c).map (·, rest)
  | [] => none

def isPad (c : Char) : Bool := c == ' ' || c == '\t'

/-- What is behind a backslash that ends its line: the blanks of this line and of the next ones are passed
over. -/
def afterLineEnd? (cs : List Char) : Option (List Char) :=
  match cs.dropWhile isPad with
  | '\n' :: rest => some (rest.dropWhile fun c => isPad c || c == '\n')
  | _ => none

/-- The rest of a string on one line. The fuel is the length of the text. -/
def line? (q : Quote) : Nat → List Char → Option (List Char × List Char)
  | 0, _ => none
  | _, [] => none
  | fuel + 1, c :: rest =>
    if c = q.mark then some ([], rest)
    else if q = .basic ∧ c = '\\' then do
      let (e, rest) ← escape? rest
      (line? q fuel rest).map fun (s, rest) => (e :: s, rest)
    else if isAllowed c then (line? q fuel rest).map fun (s, rest) => (c :: s, rest)
    else none

/-- The rest of a string over several lines. Up to two quotes may stand before the three that end it. -/
def block? (q : Quote) : Nat → List Char → Option (List Char × List Char)
  | 0, _ => none
  | _, [] => none
  | fuel + 1, c :: rest =>
    if c = q.mark then
      let more := (rest.takeWhile (· = q.mark)).length
      if more < 2 then (block? q fuel rest).map fun (s, rest) => (c :: s, rest)
      else
        let extra := min (more - 2) 2
        some (List.replicate extra c, rest.drop (2 + extra))
    else if q = .basic ∧ c = '\\' then
      match afterLineEnd? rest with
      | some rest => block? q fuel rest
      | none => do
        let (e, rest) ← escape? rest
        (block? q fuel rest).map fun (s, rest) => (e :: s, rest)
    else if c = '\n' ∨ isAllowed c then (block? q fuel rest).map fun (s, rest) => (c :: s, rest)
    else none

/-- The string that begins behind a quote, and whether it may go over several lines. -/
def string? (q : Quote) (cs : List Char) : Option ((String × Bool) × List Char) :=
  match cs with
  | a :: b :: rest =>
    if a = q.mark ∧ b = q.mark then
      let rest := match rest with
        | '\n' :: rest => rest
        | rest => rest
      (block? q (rest.length + 1) rest).map fun (s, rest) => ((String.ofList s, true), rest)
    else one cs
  | cs => one cs
where
  one (cs : List Char) : Option ((String × Bool) × List Char) :=
    (line? q (cs.length + 1) cs).map fun (s, rest) => ((String.ofList s, false), rest)

end Bearer.Toml
