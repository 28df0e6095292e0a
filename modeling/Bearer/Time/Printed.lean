import Bearer.Time.Calendar
/-! Written times. An instant is a date, a clock time with no, three, six or nine places of a second,
the fewest that are exact, and a mark for UTC. A duration is a count of seconds in ISO 8601 form. -/

namespace Bearer

/-- Decimal text with zeros in front up to a width. -/
def padded (width n : Nat) : String :=
  let digits := toString n
  String.ofList (List.replicate (width - digits.length) '0') ++ digits

/-- Years of more than four digits and years before 0 carry a sign. -/
def Date.yearText (y : Int) : String :=
  if 0 ≤ y ∧ y ≤ 9999 then padded 4 y.toNat
  else if y < 0 then "-" ++ padded 4 y.natAbs
  else "+" ++ padded 4 y.toNat

def Date.text (d : Date) : String :=
  Date.yearText d.year ++ "-" ++ padded 2 d.month ++ "-" ++ padded 2 d.day

/-- The places of a second after a point, in groups of three. -/
def subsecondText (nanos : Nat) : String :=
  if nanos = 0 then ""
  else if nanos % 1000000 = 0 then "." ++ padded 3 (nanos / 1000000)
  else if nanos % 1000 = 0 then "." ++ padded 6 (nanos / 1000)
  else "." ++ padded 9 nanos

namespace Instant

/-- The time of day; a leap second is the sixtieth of its minute. -/
def clockText (t : Instant) (leap : Bool) : String :=
  let s := t.secondOfDay
  padded 2 (s / 3600) ++ ":" ++ padded 2 (s / 60 % 60) ++ ":"
    ++ padded 2 (s % 60 + leap.toNat) ++ subsecondText t.subsecond

/-- The form for records, `2024-01-01T12:00:00Z`. -/
def stamp (t : Instant) : String := t.date.text ++ "T" ++ t.clockText false ++ "Z"

/-- The form for messages, `2024-01-01 12:00:00 UTC`. -/
def text (t : Instant) : String := t.date.text ++ " " ++ t.clockText false ++ " UTC"

end Instant

/-- Drops the zeros at the end of a fraction of a second. -/
def trimmedFraction (nanos : Nat) : String :=
  let digits := (padded 9 nanos).toList
  String.ofList (digits.reverse.dropWhile (· == '0')).reverse

def Duration.text (d : Duration) : String :=
  if d.nanos = 0 then "P0D"
  else
    let size := d.nanos.natAbs
    let sign := if d.nanos < 0 then "-" else ""
    let fraction := size % 1000000000
    sign ++ "PT" ++ toString (size / 1000000000)
      ++ (if fraction = 0 then "" else "." ++ trimmedFraction fraction) ++ "S"

end Bearer
