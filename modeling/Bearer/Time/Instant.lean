/-! Points in time and spans between them, both counted in nanoseconds. An `Instant` lies in the
calendar, a `Duration` in the range of signed milliseconds of 64 bits; what would leave either range
is refused where it is built. -/

namespace Bearer

/-- A signed span of at most `2 ^ 63 - 1` milliseconds either way. -/
structure Duration where
  nanos : Int
  le_nanos : -(9223372036854775807 * 1000000) ≤ nanos := by omega
  nanos_le : nanos ≤ 9223372036854775807 * 1000000 := by omega

namespace Duration

theorem ext {d e : Duration} (h : d.nanos = e.nanos) : d = e := by
  cases d; cases e; cases h; rfl

instance : DecidableEq Duration := fun d e =>
  decidable_of_iff (d.nanos = e.nanos) ⟨ext, fun h => h ▸ rfl⟩

instance : LE Duration := ⟨fun d e => d.nanos ≤ e.nanos⟩
instance : LT Duration := ⟨fun d e => d.nanos < e.nanos⟩
instance (d e : Duration) : Decidable (d ≤ e) := inferInstanceAs (Decidable (d.nanos ≤ e.nanos))
instance (d e : Duration) : Decidable (d < e) := inferInstanceAs (Decidable (d.nanos < e.nanos))

def zero : Duration := ⟨0, by omega, by omega⟩

instance : Inhabited Duration := ⟨zero⟩

def ofNanos? (n : Int) : Option Duration :=
  if h : -(9223372036854775807 * 1000000) ≤ n ∧ n ≤ 9223372036854775807 * 1000000 then
    some ⟨n, h.1, h.2⟩
  else none

def ofSeconds? (s : Int) : Option Duration := ofNanos? (s * 1000000000)

theorem ofNanos?_eq_some {n : Int} {d : Duration} : ofNanos? n = some d ↔ d.nanos = n := by
  unfold ofNanos?
  split
  · simp only [Option.some.injEq]
    exact ⟨fun h => h ▸ rfl, fun h => ext h.symm⟩
  · simp only [reduceCtorEq, false_iff]
    intro h
    exact absurd (h ▸ And.intro d.le_nanos d.nanos_le) ‹_›

/-- Whole seconds, rounded down. -/
def seconds (d : Duration) : Int := d.nanos / 1000000000

end Duration

/-- An unsigned span, as a cache is told how long to keep an entry. -/
structure Ttl where
  nanos : Nat
  deriving DecidableEq, Inhabited

namespace Ttl

def ofSeconds (s : Nat) : Ttl := ⟨s * 1000000000⟩

def seconds (t : Ttl) : Nat := t.nanos / 1000000000

/-- The span as a signed one, if it is not too long for that. -/
def toDuration? (t : Ttl) : Option Duration := Duration.ofNanos? t.nanos

end Ttl

/-- A point in time between the first and the last nanosecond of the calendar, the years -262143
to 262142, counted from the start of 1970. -/
structure Instant where
  nanos : Int
  le_nanos : -8334601228800 * 1000000000 ≤ nanos := by omega
  nanos_le : nanos ≤ 8210266876799 * 1000000000 + 999999999 := by omega

namespace Instant

theorem ext {s t : Instant} (h : s.nanos = t.nanos) : s = t := by
  cases s; cases t; cases h; rfl

instance : DecidableEq Instant := fun s t =>
  decidable_of_iff (s.nanos = t.nanos) ⟨ext, fun h => h ▸ rfl⟩

instance : LE Instant := ⟨fun s t => s.nanos ≤ t.nanos⟩
instance : LT Instant := ⟨fun s t => s.nanos < t.nanos⟩
instance (s t : Instant) : Decidable (s ≤ t) := inferInstanceAs (Decidable (s.nanos ≤ t.nanos))
instance (s t : Instant) : Decidable (s < t) := inferInstanceAs (Decidable (s.nanos < t.nanos))

theorem le_def {s t : Instant} : s ≤ t ↔ s.nanos ≤ t.nanos := Iff.rfl
theorem lt_def {s t : Instant} : s < t ↔ s.nanos < t.nanos := Iff.rfl

def epoch : Instant := ⟨0, by omega, by omega⟩

instance : Inhabited Instant := ⟨epoch⟩

def ofNanos? (n : Int) : Option Instant :=
  if h : -8334601228800 * 1000000000 ≤ n ∧ n ≤ 8210266876799 * 1000000000 + 999999999 then
    some ⟨n, h.1, h.2⟩
  else none

theorem ofNanos?_eq_some {n : Int} {t : Instant} : ofNanos? n = some t ↔ t.nanos = n := by
  unfold ofNanos?
  split
  · simp only [Option.some.injEq]
    exact ⟨fun h => h ▸ rfl, fun h => ext h.symm⟩
  · simp only [reduceCtorEq, false_iff]
    intro h
    exact absurd (h ▸ And.intro t.le_nanos t.nanos_le) ‹_›

def ofSeconds? (s : Int) : Option Instant := ofNanos? (s * 1000000000)

/-- Whole seconds since the epoch, rounded down. -/
def seconds (t : Instant) : Int := t.nanos / 1000000000

/-- The nanoseconds that `seconds` leaves. -/
def subsecond (t : Instant) : Nat := (t.nanos % 1000000000).toNat

/-- The instant a span later, `none` if that is past either end of the calendar. -/
def add? (t : Instant) (d : Duration) : Option Instant := ofNanos? (t.nanos + d.nanos)

theorem add?_eq_some {t u : Instant} {d : Duration} :
    t.add? d = some u ↔ u.nanos = t.nanos + d.nanos := ofNanos?_eq_some

/-- The span from one instant to another; the calendar is short enough for it. -/
def since (t s : Instant) : Duration where
  nanos := t.nanos - s.nanos
  le_nanos := by have := t.le_nanos; have := s.nanos_le; omega
  nanos_le := by have := t.nanos_le; have := s.le_nanos; omega

end Instant

end Bearer
