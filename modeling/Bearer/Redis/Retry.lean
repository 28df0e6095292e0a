/-! Repeating what failed for a passing reason. Attempts are counted from one, in 32 bits. The wait before the
first repetition is given; each later one is twice the last, but at most five seconds. It is doubled before it is cut
down to these, so a run breaks down over a wait that 64 bits do not hold twice. -/

namespace Bearer.Retry

/-- Milliseconds; longer waits are not doubled further. -/
def longestWait : UInt64 := 5000

/-- Twice a wait, cut down to the longest. -/
def doubled (wait : UInt64) : UInt64 := min (wait * 2) longestWait

/-- The wait after a wait. There is none where 64 bits do not hold twice the wait. -/
def nextWait? (wait : UInt64) : Option UInt64 :=
  if wait.toNat * 2 < UInt64.size then some (doubled wait) else none

theorem doubled_le (wait : UInt64) : doubled wait ≤ longestWait := by
  show (if wait * 2 ≤ longestWait then wait * 2 else longestWait) ≤ longestWait
  split
  · next h => exact h
  · exact UInt64.le_refl longestWait

/-- Where there may be another attempt, its number has not wrapped around. -/
theorem toNat_succ {number most : UInt32} (h : number < most) : (number + 1).toNat = number.toNat + 1 := by
  have hlt : number.toNat < most.toNat := UInt32.lt_iff_toNat_lt.1 h
  have hmost := most.toNat_lt
  rw [UInt32.toNat_add, UInt32.toNat_one, Nat.mod_eq_of_lt (by omega)]

section
variable {σ ε α : Type} (isPassing : ε → Bool) (attempt : UInt32 → σ → Except ε α × σ)
  (pause : UInt32 → UInt64 → σ → σ)

/-- The attempt with a number, and those that follow it while there may be more and the last one failed for a
passing reason. A run that breaks down has no outcome. -/
def loop (most number : UInt32) (wait : UInt64) (s : σ) : Option (Except ε α) × σ :=
  match attempt number s with
  | (.ok a, s) => (some (.ok a), s)
  | (.error e, s) =>
    if number < most ∧ isPassing e = true then
      match nextWait? wait with
      | some next => loop most (number + 1) next (pause number wait s)
      | none => (none, pause number wait s)
    else (some (.error e), s)
termination_by most.toNat - number.toNat
decreasing_by
  have hlt : number.toNat < most.toNat := UInt32.lt_iff_toNat_lt.1 ‹number < most ∧ _›.1
  rw [toNat_succ ‹number < most ∧ _›.1]
  omega

/-- At most so many attempts to connect, but at least one, whatever makes them fail. -/
def connect (most : UInt32) (wait : UInt64) (s : σ) : Option (Except ε α) × σ :=
  loop (fun _ => true) attempt pause most 1 wait s

/-- At most so many attempts at a command. A client that is to make none makes one. -/
def execute (most : UInt32) (wait : UInt64) (s : σ) : Option (Except ε α) × σ :=
  loop isPassing attempt pause (max most 1) 1 wait s

end

end Bearer.Retry
