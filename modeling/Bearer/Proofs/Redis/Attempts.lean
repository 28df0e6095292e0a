import Bearer.Redis.Reply
import Bearer.Redis.Retry
import Bearer.Settings.Cache
import Mathlib.Data.List.Iterate
import Mathlib.Data.Nat.Find
/-! How often something is attempted before its outcome stands. Both loops stop at the first attempt that succeeds,
fails for good or is the last one allowed, and the counter of the attempts never comes round to zero. They do so unless
they break down before, which takes a first wait of more than 63 bits. -/

namespace Bearer.Retry

section

variable {wait next : UInt64}

theorem fits_doubled_iff : wait.toNat * 2 < UInt64.size ↔ wait.toNat < 2 ^ 63 := by
  have hsize : UInt64.size = 2 ^ 63 * 2 := rfl
  rw [hsize]
  exact Nat.mul_lt_mul_right Nat.zero_lt_two

theorem nextWait?_eq_some : nextWait? wait = some next ↔ wait.toNat < 2 ^ 63 ∧ next = doubled wait := by
  rw [nextWait?, Option.ite_none_right_eq_some, fits_doubled_iff, Option.some_inj, eq_comm]

theorem nextWait?_eq_none : nextWait? wait = none ↔ 2 ^ 63 ≤ wait.toNat := by
  rw [nextWait?, ite_eq_right_iff, fits_doubled_iff, ← Nat.not_lt]
  exact ⟨fun h hlt => Option.some_ne_none _ (h hlt), fun h hlt => absurd hlt h⟩

/-- Only the first wait can be too long to double. -/
theorem doubled_lt (wait : UInt64) : (doubled wait).toNat < 2 ^ 63 :=
  Nat.lt_of_le_of_lt (UInt64.le_iff_toNat_le.1 (doubled_le wait)) (by decide)

end

section

variable {σ ε α : Type} {isPassing : ε → Bool} {attempt : UInt32 → σ → Except ε α × σ} {pause : UInt32 → UInt64 → σ → σ}
  {most number : UInt32} {wait : UInt64} {s s' : σ} {e : ε}

theorem loop_of_ok {a : α} (h : attempt number s = (.ok a, s')) :
    loop isPassing attempt pause most number wait s = (some (.ok a), s') := by
  rw [loop, h]

theorem loop_of_stop (h : attempt number s = (.error e, s')) (hstop : ¬(number < most ∧ isPassing e = true)) :
    loop isPassing attempt pause most number wait s = (some (.error e), s') := by
  rw [loop, h]
  exact if_neg hstop

theorem loop_of_passing (h : attempt number s = (.error e, s')) (hlt : number < most) (hpass : isPassing e = true)
    (hfits : wait.toNat < 2 ^ 63) : loop isPassing attempt pause most number wait s =
      loop isPassing attempt pause most (number + 1) (doubled wait) (pause number wait s') := by
  rw [loop, h]
  simp only [hlt, hpass, and_self, if_true, nextWait?_eq_some.2 ⟨hfits, rfl⟩]

theorem loop_of_overflow (h : attempt number s = (.error e, s')) (hlt : number < most) (hpass : isPassing e = true)
    (hover : 2 ^ 63 ≤ wait.toNat) :
    loop isPassing attempt pause most number wait s = (none, pause number wait s') := by
  rw [loop, h]
  simp only [hlt, hpass, and_self, if_true, nextWait?_eq_none.2 hover]

end

/-- What a loop has done: the numbers of its attempts and the lengths of its waits. -/
structure Record where
  numbers : List UInt32
  waits : List UInt64

namespace Record

def empty : Record := ⟨[], []⟩

/-- Makes the next attempt, whose outcome is given beforehand, and puts it on record. -/
def attempt {ε α : Type} (outcomes : Nat → Except ε α) (number : UInt32) (r : Record) : Except ε α × Record :=
  (outcomes (r.numbers.length + 1), { r with numbers := r.numbers ++ [number] })

def pause (_ : UInt32) (wait : UInt64) (r : Record) : Record := { r with waits := r.waits ++ [wait] }

theorem attempt_of_toNat {ε α : Type} (outcomes : Nat → Except ε α) (number : UInt32) (r : Record)
    (h : number.toNat = r.numbers.length + 1) :
    attempt outcomes number r = (outcomes number.toNat, { r with numbers := r.numbers ++ [number] }) := by
  rw [h]
  rfl

end Record

section

variable {ε α : Type} {mayPass : ε → Prop} {outcomes : Nat → Except ε α}

/-- An outcome that no other attempt can better. -/
def IsFinal (mayPass : ε → Prop) : Except ε α → Prop
  | .ok _ => True
  | .error e => ¬mayPass e

/-- The first attempt that succeeds, fails for a reason that does not pass, or is the last of so many. -/
structure IsLast (mayPass : ε → Prop) (most : Nat) (outcomes : Nat → Except ε α) (k : Nat) : Prop where
  pos : 1 ≤ k
  stops : k = most ∨ IsFinal mayPass (outcomes k)
  goesOn : ∀ j, 1 ≤ j → j < k → ¬(j = most ∨ IsFinal mayPass (outcomes j))

theorem IsLast.le {most k : Nat} (h : IsLast mayPass most outcomes k) (hmost : 1 ≤ most) : k ≤ most := by
  by_contra hlt
  exact h.goesOn most hmost (Nat.not_le.1 hlt) (Or.inl rfl)

/-- Before the last one an attempt is not the last that is allowed, and it fails for a reason that passes. -/
theorem IsLast.passes {isPassing : ε → Bool} {most : UInt32} {k : Nat}
    (h : IsLast (isPassing · = true) (max 1 most.toNat) outcomes k) (number : UInt32) (hpos : 1 ≤ number.toNat)
    (hlt : number.toNat < k) :
    number < most ∧ ∃ e, outcomes number.toNat = .error e ∧ isPassing e = true := by
  have hon := h.goesOn number.toNat hpos hlt
  have hle := h.le (Nat.le_max_left 1 most.toNat)
  refine ⟨UInt32.lt_iff_toNat_lt.2 (by omega), ?_⟩
  cases hout : outcomes number.toNat with
  | ok a => exact absurd (Or.inr (by rw [hout]; trivial)) hon
  | error e =>
    refine ⟨e, rfl, ?_⟩
    by_contra hpass
    exact hon (Or.inr (by rw [hout]; exact hpass))

theorem exists_isLast (mayPass : ε → Prop) (outcomes : Nat → Except ε α) {most : Nat} (hmost : 1 ≤ most) :
    ∃ k, IsLast mayPass most outcomes k := by
  classical
  have hex : ∃ k, 1 ≤ k ∧ (k = most ∨ IsFinal mayPass (outcomes k)) := ⟨most, hmost, Or.inl rfl⟩
  obtain ⟨hpos, hstops⟩ := Nat.find_spec hex
  exact ⟨Nat.find hex, hpos, hstops, fun j hj hlt h => Nat.find_min hex hlt ⟨hj, h⟩⟩

end

section

variable {ε α : Type} {isPassing : ε → Bool} {outcomes : Nat → Except ε α} {most : UInt32}

/-- A loop on its way, with what is on record so far and so many attempts still to come behind the next one. -/
theorem loop_record (left : Nat) (number : UInt32) (wait : UInt64) (r : Record)
    (hnumber : number.toNat = r.numbers.length + 1) (hfits : left = 0 ∨ wait.toNat < 2 ^ 63)
    (hlast : IsLast (isPassing · = true) (max 1 most.toNat) outcomes (number.toNat + left)) :
    loop isPassing (Record.attempt outcomes) Record.pause most number wait r =
      (some (outcomes (number.toNat + left)),
        ⟨r.numbers ++ List.iterate (· + 1) number (left + 1), r.waits ++ List.iterate doubled wait left⟩) := by
  -- On the attempts still to come: only where there is one the wait has to be doubled.
  induction left generalizing number wait r with
  | zero =>
    have hmade := Record.attempt_of_toNat outcomes number r hnumber
    cases hout : outcomes number.toNat with
    | ok a =>
      rw [hout] at hmade
      rw [loop_of_ok hmade, Nat.add_zero]
      simp [List.iterate]
    | error e =>
      have hstop : ¬(number < most ∧ isPassing e = true) := by
        rintro ⟨hlt, hpass⟩
        have hlt : number.toNat < most.toNat := UInt32.lt_iff_toNat_lt.1 hlt
        rcases hlast.stops with hmost | hfinal
        · omega
        · rw [Nat.add_zero, hout] at hfinal
          exact hfinal hpass
      rw [hout] at hmade
      rw [loop_of_stop hmade hstop, Nat.add_zero]
      simp [List.iterate]
  | succ left ih =>
    obtain ⟨hlt, e, hout, hpass⟩ := hlast.passes number (by omega) (by omega)
    have hmade := Record.attempt_of_toNat outcomes number r hnumber
    have hfits : wait.toNat < 2 ^ 63 := hfits.resolve_left (Nat.succ_ne_zero left)
    have hsucc : (number + 1).toNat = number.toNat + 1 := toNat_succ hlt
    have hleft : number.toNat + (left + 1) = (number + 1).toNat + left := by omega
    rw [hout] at hmade
    rw [hleft] at hlast ⊢
    rw [loop_of_passing hmade hlt hpass hfits,
      ih _ _ _ (by simp [Record.pause, hsucc, hnumber]) (Or.inr (doubled_lt wait)) hlast]
    simp [Record.pause, List.iterate]

/-- A loop from its beginning. It breaks down only over its first wait. -/
theorem loop_empty (isPassing : ε → Bool) (outcomes : Nat → Except ε α) (most : UInt32) (wait : UInt64) :
    ∃ k, IsLast (isPassing · = true) (max 1 most.toNat) outcomes k ∧
      (k = 1 ∨ wait.toNat < 2 ^ 63 →
        loop isPassing (Record.attempt outcomes) Record.pause most 1 wait Record.empty =
          (some (outcomes k), ⟨List.iterate (· + 1) 1 k, List.iterate doubled wait (k - 1)⟩)) ∧
      (1 < k ∧ 2 ^ 63 ≤ wait.toNat →
        loop isPassing (Record.attempt outcomes) Record.pause most 1 wait Record.empty = (none, ⟨[1], [wait]⟩)) := by
  obtain ⟨k, hk⟩ := exists_isLast (isPassing · = true) outcomes (Nat.le_max_left 1 most.toNat)
  have hindex : (1 : UInt32).toNat + (k - 1) = k := Nat.add_sub_cancel' hk.pos
  have hcount : k - 1 + 1 = k := Nat.sub_add_cancel hk.pos
  refine ⟨k, hk, fun hends => ?_, fun ⟨hmore, hover⟩ => ?_⟩
  · have hfits : k - 1 = 0 ∨ wait.toNat < 2 ^ 63 := hends.imp_left fun h => by omega
    rw [loop_record (k - 1) 1 wait Record.empty rfl hfits (hindex.symm ▸ hk), hindex, hcount]
    rfl
  · obtain ⟨hlt, e, hout, hpass⟩ := hk.passes 1 (by decide) hmore
    have hmade := Record.attempt_of_toNat outcomes 1 Record.empty rfl
    rw [hout] at hmade
    rw [loop_of_overflow hmade hlt hpass hover]
    rfl

/-- As many numbers as there are in 32 bits do not come round. -/
theorem map_toNat_iterate (n : Nat) (number : UInt32) (h : number.toNat + n ≤ 4294967296) :
    (List.iterate (· + 1) number n).map UInt32.toNat = List.range' number.toNat n := by
  induction n generalizing number with
  | zero => rfl
  | succ n ih =>
    rw [List.iterate, List.map_cons, List.range'_succ]
    cases n with
    | zero => rfl
    | succ n =>
      have hsucc : (number + 1).toNat = number.toNat + 1 := by
        rw [UInt32.toNat_add, UInt32.toNat_one, Nat.mod_eq_of_lt (by omega)]
      rw [ih (number + 1) (by omega), hsucc]

end

/-- A run over some outcomes that has ended with the last attempt there was to be made, and returns its outcome; the
attempts were numbered from one on, and there was a wait between any two. -/
structure Ended {ε α : Type} (outcomes : Nat → Except ε α) (k : Nat) (run : Option (Except ε α) × Record) : Prop where
  outcome : run.1 = some (outcomes k)
  numbers : run.2.numbers.map UInt32.toNat = List.range' 1 k
  waits : run.2.waits.length = k - 1

/-- A run that has broken down over its first wait, which it waited in full. -/
structure BrokenDown {ε α : Type} (wait : UInt64) (run : Option (Except ε α) × Record) : Prop where
  outcome : run.1 = none
  numbers : run.2.numbers = [1]
  waits : run.2.waits = [wait]

/-- A run over some outcomes, begun with a wait, comes to its end if there is no second attempt to be made or the wait
can be doubled. -/
def EndsOrBreaksDown {ε α : Type} (mayPass : ε → Prop) (most : Nat) (wait : UInt64) (outcomes : Nat → Except ε α)
    (run : Option (Except ε α) × Record) : Prop :=
  ∃ k, IsLast mayPass most outcomes k ∧ (k = 1 ∨ wait.toNat < 2 ^ 63 → Ended outcomes k run) ∧
    (1 < k ∧ 2 ^ 63 ≤ wait.toNat → BrokenDown wait run)

theorem loop_endsOrBreaksDown {ε α : Type} (isPassing : ε → Bool) (outcomes : Nat → Except ε α) (most : UInt32)
    (wait : UInt64) :
    EndsOrBreaksDown (isPassing · = true) (max 1 most.toNat) wait outcomes
      (loop isPassing (Record.attempt outcomes) Record.pause most 1 wait Record.empty) := by
  obtain ⟨k, hk, hends, hbreaks⟩ := loop_empty isPassing outcomes most wait
  have hle : k ≤ max 1 most.toNat := hk.le (Nat.le_max_left ..)
  have hmost := most.toNat_lt
  refine ⟨k, hk, fun h => ?_, fun h => ?_⟩
  · rw [hends h]
    refine ⟨rfl, ?_, List.length_iterate ..⟩
    rw [map_toNat_iterate k 1 (by rw [UInt32.toNat_one]; omega), UInt32.toNat_one]
  · rw [hbreaks h]
    exact ⟨rfl, rfl, rfl⟩

theorem toNat_max_one (n : UInt32) : (max n 1).toNat = max n.toNat 1 := by
  have hmax : max n 1 = if n ≤ 1 then 1 else n := rfl
  have hle : n ≤ 1 ↔ n.toNat ≤ 1 := UInt32.le_iff_toNat_le
  rw [hmax, apply_ite UInt32.toNat, UInt32.toNat_one]
  simp only [hle]
  split <;> omega

theorem isPassing_iff {e : Redis.Trouble} : e.isPassing = true ↔
    e = .io ∨ e = .client ∨ (∃ d, e = .loading d) ∨ ∃ d, e = .tryAgain d := by
  cases e <;> simp [Redis.Trouble.isPassing]

/-- Whatever the outcomes, a command is attempted until it succeeds, fails other than in the connection, in the client
or for a server that asks for time, or has been attempted as often as the settings say, but once at the least; and
connecting likewise, only that there no failure is for good. Either comes to an end, but for one case: where a second
attempt is to be made and the wait in the settings is too long to be doubled, it breaks down behind that wait, with no
outcome. -/
theorem endsOrBreaksDown_execute_connect {α : Type} (c : Settings.Cache) (outcomes : Nat → Except Redis.Trouble α) :
    EndsOrBreaksDown (fun e => e = .io ∨ e = .client ∨ (∃ d, e = .loading d) ∨ ∃ d, e = .tryAgain d)
      (max 1 c.maxRetries.toNat) c.retryDelay outcomes
      (execute Redis.Trouble.isPassing (Record.attempt outcomes) Record.pause c.maxRetries c.retryDelay Record.empty) ∧
    EndsOrBreaksDown (fun _ => True) (max 1 c.maxRetries.toNat) c.retryDelay outcomes
      (connect (Record.attempt outcomes) Record.pause c.maxRetries c.retryDelay Record.empty) := by
  have hmost : max 1 (max c.maxRetries 1).toNat = max 1 c.maxRetries.toNat := by
    rw [toNat_max_one]
    omega
  constructor
  · have h := loop_endsOrBreaksDown Redis.Trouble.isPassing outcomes (max c.maxRetries 1) c.retryDelay
    simp only [isPassing_iff, hmost] at h
    exact h
  · have h := loop_endsOrBreaksDown (fun _ => true) outcomes c.maxRetries c.retryDelay
    simp only at h
    exact h

/-- Three attempts were allowed, of which the first is the only one to be made. -/
example : connect (Record.attempt fun _ => (.error .io : Except Redis.Trouble Unit)) Record.pause 3 9223372036854775808
    Record.empty = (none, ⟨[1], [9223372036854775808]⟩) := by
  cbv

end Bearer.Retry
