import Bearer.Text.Case
import Bearer.Text.Split
import Bearer.Time.Printed
/-! Reading a written time with its offset from UTC. Blanks may stand in front of every number and every
mark but the one between date and clock time, numbers may have fewer digits than usual, and a year with a
sign as many as it likes. -/

namespace Bearer

/-- An instant as it is written. A leap second belongs to the second before it. -/
structure Stamp where
  instant : Instant
  leap : Bool

namespace Stamp

def text (s : Stamp) : String :=
  s.instant.date.text ++ "T" ++ s.instant.clockText s.leap ++ "Z"

/-- A number of at least one and at most `width` digits. -/
def number? (width : Nat) (cs : List Char) : Option (Nat × List Char) :=
  let cs := cs.dropWhile Text.isBlank
  let ds := (cs.take width).takeWhile Char.isDigit
  if ds.isEmpty then none
  else some (ds.foldl (fun n c => 10 * n + (c.toNat - 48)) 0, cs.drop ds.length)

/-- A number between bounds. -/
def bounded? (low high : Nat) (cs : List Char) : Option (Nat × List Char) := do
  let (n, rest) ← number? 2 cs
  if low ≤ n ∧ n ≤ high then some (n, rest) else none

/-- What follows a mark. -/
def after? (mark : Char) (cs : List Char) : Option (List Char) :=
  Text.afterFront? [mark] (cs.dropWhile Text.isBlank)

def year? (cs : List Char) : Option (Int × List Char) :=
  match cs.dropWhile Text.isBlank with
  | '-' :: rest => signed rest fun n => -(n : Int)
  | '+' :: rest => signed rest fun n => (n : Int)
  | rest => (number? 4 rest).map fun (n, rest) => ((n : Int), rest)
where
  /-- The digits follow the sign at once. -/
  signed (rest : List Char) (f : Nat → Int) : Option (Int × List Char) :=
    if rest.head?.any Char.isDigit then
      (number? rest.length rest).map fun (n, rest) => (f n, rest)
    else none

/-- The places of a second: nine count, further ones are passed over. -/
def fraction? (cs : List Char) : Option (Nat × List Char) :=
  match cs with
  | '.' :: rest =>
    let ds := rest.takeWhile Char.isDigit
    if ds.isEmpty then none
    else
      let kept := ds.take 9
      some (kept.foldl (fun n c => 10 * n + (c.toNat - 48)) 0 * Nat.pow 10 (9 - kept.length),
        rest.drop ds.length)
  | rest => some (0, rest)

def twoDigits? (most : Nat) (cs : List Char) : Option (Nat × List Char) :=
  match cs with
  | a :: b :: rest =>
    if a.isDigit && b.isDigit then
      let n := 10 * (a.toNat - 48) + (b.toNat - 48)
      if n ≤ most then some (n, rest) else none
    else none
  | _ => none

/-- The offset from UTC in seconds. -/
def offset? (cs : List Char) : Option (Int × List Char) :=
  let hoursAndMinutes (cs : List Char) : Option (Nat × List Char) := do
    let (h, cs) ← twoDigits? 99 cs
    let (m, cs) ← twoDigits? 59 (cs.dropWhile fun c => c == ':' || Text.isBlank c)
    if h < 24 then some (3600 * h + 60 * m, cs) else none
  if (cs.take 3).map Char.toLower = ['u', 't', 'c'] then some (0, cs.drop 3)
  else
    match cs with
    | 'Z' :: rest => some (0, rest)
    | 'z' :: rest => some (0, rest)
    | '+' :: rest => (hoursAndMinutes rest).map fun (s, rest) => ((s : Int), rest)
    | '-' :: rest => (hoursAndMinutes rest).map fun (s, rest) => (-(s : Int), rest)
    | '\u2212' :: rest => (hoursAndMinutes rest).map fun (s, rest) => (-(s : Int), rest)
    | _ => none

def parse? (s : String) : Option Stamp := do
  let (year, cs) ← year? s.toList
  let (month, cs) ← bounded? 1 12 (← after? '-' cs)
  let (day, cs) ← bounded? 1 31 (← after? '-' cs)
  let cs ← match cs with
    | 'T' :: rest => some rest
    | 't' :: rest => some rest
    | ' ' :: rest => some rest
    | _ => none
  let (hour, cs) ← bounded? 0 23 cs
  let (minute, cs) ← bounded? 0 59 (← after? ':' cs)
  let (second, cs) ← bounded? 0 60 (← after? ':' cs)
  let (nanos, cs) ← fraction? cs
  let (offset, cs) ← offset? (cs.dropWhile Text.isBlank)
  let date : Date := ⟨year, month, day⟩
  if date.isValid && cs.all Text.isBlank then
    let leap := decide (second = 60)
    let seconds : Int := date.toDays * 86400 + hour * 3600 + minute * 60 + min second 59
    -- the date is one of the calendar's even where the offset leads away from it
    let _ ← Instant.ofSeconds? seconds
    let instant ← Instant.ofNanos? ((seconds - offset) * 1000000000 + nanos)
    some ⟨instant, leap⟩
  else none

end Stamp

end Bearer
