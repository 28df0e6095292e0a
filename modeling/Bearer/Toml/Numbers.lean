import Bearer.Decimal.Binary64
import Bearer.Text.Hex
import Bearer.Time.Printed
/-! Numbers and times of TOML. Digits may be parted by single underscores, and only numbers with a base of
their own may begin with a needless zero. -/

namespace Bearer.Toml

inductive Number
  | int (n : Int)
  | float (x : Binary64)

def isDigitOf (base : Nat) (c : Char) : Bool := (Hex.value? c).any fun d => d < base

/-- Whether underscores stand only between digits. -/
def partedWell (isDigit : Char → Bool) : List Char → Bool
  | [] => false
  | [c] => isDigit c
  | '_' :: _ => false
  | c :: '_' :: rest => isDigit c && partedWell isDigit rest
  | c :: rest => isDigit c && partedWell isDigit rest

def digitsOf (base : Nat) (cs : List Char) : Nat :=
  cs.foldl (fun n c => match Hex.value? c with
    | some d => base * n + d
    | none => n) 0

/-- Digits of a base, `none` if they are not in order. -/
def plain? (base : Nat) (cs : List Char) : Option Nat :=
  if partedWell (isDigitOf base) cs then some (digitsOf base cs) else none

def sign (cs : List Char) : Bool × List Char :=
  match cs with
  | '-' :: rest => (true, rest)
  | '+' :: rest => (false, rest)
  | rest => (false, rest)

def hasNeedlessZero : List Char → Bool
  | '0' :: _ :: _ => true
  | _ => false

def signed (negative : Bool) (n : Nat) : Int := if negative then -(n : Int) else n

def fits (n : Int) : Option Number :=
  if -9223372036854775808 ≤ n ∧ n ≤ 9223372036854775807 then some (.int n) else none

/-- A whole number. -/
def int? (cs : List Char) : Option Number :=
  match cs with
  | '0' :: 'x' :: ds => (plain? 16 ds).bind fun n => fits n
  | '0' :: 'o' :: ds => (plain? 8 ds).bind fun n => fits n
  | '0' :: 'b' :: ds => (plain? 2 ds).bind fun n => fits n
  | cs =>
    let (negative, ds) := sign cs
    if hasNeedlessZero ds then none else (plain? 10 ds).bind fun n => fits (signed negative n)

/-- The power of ten behind a letter e. -/
def power? (cs : List Char) : Option Int :=
  let (negative, ds) := sign cs
  (plain? 10 ds).map (signed negative)

/-- A number with a point or an exponent; it must not be too large. -/
def float? (cs : List Char) : Option Number := do
  let (negative, cs) := sign cs
  let mantissa := cs.takeWhile fun c => c ≠ 'e' ∧ c ≠ 'E'
  let e ← match cs.drop mantissa.length with
    | [] => some 0
    | _ :: rest => power? rest
  let whole := mantissa.takeWhile (· ≠ '.')
  if hasNeedlessZero whole then none
  let w ← plain? 10 whole
  let (w, places) ← match mantissa.drop whole.length with
    | [] => some (w, 0)
    | _ :: ds => do
      let p ← plain? 10 ds
      let size := (ds.filter Char.isDigit).length
      some (w * Nat.pow 10 size + p, size)
  match Binary64.ofDecimal negative w (e - places) with
  | .finite negative m q => some (.float (.finite negative m q))
  | _ => none

/-- A number as it is written. A plus sign in front changes nothing. -/
def number? (cs : List Char) : Option Number :=
  let cs := match cs with
    | '+' :: rest => rest
    | cs => cs
  let (negative, word) := sign cs
  if word = "inf".toList then some (.float (.infinite negative))
  else if word = "nan".toList then some (.float .nan)
  else if cs.take 2 ≠ ['0', 'x'] ∧ cs.any (fun c => c == '.' || c == 'e' || c == 'E') then float? cs
  else int? cs

/-! Times, each with its text in one form. -/

/-- Two digits between bounds. -/
def two? (low high : Nat) : List Char → Option (Nat × List Char)
  | a :: b :: rest =>
    if a.isDigit && b.isDigit then
      let n := 10 * (a.toNat - 48) + (b.toNat - 48)
      if low ≤ n ∧ n ≤ high then some (n, rest) else none
    else none
  | _ => none

def mark? (c : Char) : List Char → Option (List Char)
  | d :: rest => if d = c then some rest else none
  | [] => none

def date? (cs : List Char) : Option (String × List Char) := do
  let (century, cs) ← two? 0 99 cs
  let (year, cs) ← two? 0 99 cs
  let (month, cs) ← two? 1 12 (← mark? '-' cs)
  let (day, cs) ← two? 1 31 (← mark? '-' cs)
  some (padded 4 (100 * century + year) ++ "-" ++ padded 2 month ++ "-" ++ padded 2 day, cs)

def clock? (cs : List Char) : Option (String × List Char) := do
  let (hour, cs) ← two? 0 24 cs
  let (minute, cs) ← two? 0 59 (← mark? ':' cs)
  let (second, cs) ← two? 0 59 (← mark? ':' cs)
  let clock := padded 2 hour ++ ":" ++ padded 2 minute ++ ":" ++ padded 2 second
  match cs with
  | '.' :: rest =>
    let ds := rest.takeWhile Char.isDigit
    if ds.isEmpty then none
    else
      let nanos := digitsOf 10 (ds.take 9) * Nat.pow 10 (9 - min 9 ds.length)
      some (clock ++ (if nanos = 0 then "" else "." ++ trimmedFraction nanos), rest.drop ds.length)
  | cs => some (clock, cs)

def zone? (cs : List Char) : Option String :=
  let hoursAndMinutes (mark : String) (cs : List Char) : Option String := do
    let (h, cs) ← two? 0 99 cs
    let (m, cs) ← two? 0 99 (← mark? ':' cs)
    if cs.isEmpty then
      some ((if h = 0 then "+" else mark) ++ padded 2 h ++ ":" ++ padded 2 m)
    else none
  match cs with
  | [] => some ""
  | ['Z'] => some "Z"
  | ['z'] => some "Z"
  | '+' :: rest => hoursAndMinutes "+" rest
  | '-' :: rest => hoursAndMinutes "-" rest
  | _ => none

/-- A date, a clock time, or both, perhaps with an offset. -/
def time? (cs : List Char) : Option String :=
  if cs[2]? = some ':' then
    match clock? cs with
    | some (c, []) => some c
    | _ => none
  else do
    let (d, cs) ← date? cs
    match cs with
    | [] => some d
    | sep :: rest =>
      if sep = 'T' ∨ sep = 't' ∨ sep = ' ' then do
        let (c, rest) ← clock? rest
        let z ← zone? rest
        some (d ++ "T" ++ c ++ z)
      else none

end Bearer.Toml
