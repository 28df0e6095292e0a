import Bearer.Proofs.Redis.Attempts
import Mathlib.Data.UInt
/-! How long a client waits between attempts. The longest wait bounds only what has been doubled: the first wait is the
one in the settings as it stands there, and where that is longer, it is waited in full, the next one is shorter, and
twice the first may be more than 64 bits hold. -/

namespace Bearer.Retry

variable {base wait : UInt64}

theorem toNat_min (a b : UInt64) : (min a b).toNat = min a.toNat b.toNat := by
  have hmin : min a b = if a ≤ b then a else b := rfl
  have hle : a ≤ b ↔ a.toNat ≤ b.toNat := UInt64.le_iff_toNat_le
  rw [hmin, apply_ite UInt64.toNat]
  simp only [hle]
  split <;> omega

theorem toNat_doubled (wait : UInt64) : (doubled wait).toNat = min (wait.toNat * 2 % 18446744073709551616) 5000 := by
  rw [doubled, toNat_min, UInt64.toNat_mul]
  rfl

theorem le_longestWait : wait ≤ longestWait ↔ wait.toNat ≤ 5000 := UInt64.le_iff_toNat_le

/-- Up to the longest wait doubling does not overflow, so the wait does not shrink. -/
theorem le_doubled (h : wait ≤ longestWait) : wait ≤ doubled wait := by
  rw [le_longestWait] at h
  rw [UInt64.le_iff_toNat_le, toNat_doubled]
  omega

/-- Waits from a base within the bound stay there and do not fall below it. -/
theorem mem_iterate_doubled (h : base ≤ longestWait) (n : Nat) :
    ∀ w ∈ List.iterate doubled base n, base ≤ w ∧ w ≤ longestWait := by
  induction n generalizing base with
  | zero => simp
  | succ n ih =>
    rw [List.iterate, List.forall_mem_cons]
    refine ⟨⟨UInt64.le_refl base, h⟩, fun w hw => ?_⟩
    obtain ⟨hbase, hlongest⟩ := ih (doubled_le base) w hw
    exact ⟨UInt64.le_trans (le_doubled h) hbase, hlongest⟩

theorem pairwise_iterate_doubled (h : base ≤ longestWait) (n : Nat) :
    (List.iterate doubled base n).Pairwise (· ≤ ·) := by
  induction n generalizing base with
  | zero => exact .nil
  | succ n ih =>
    refine .cons (fun w hw => ?_) (ih (doubled_le base))
    exact UInt64.le_trans (le_doubled h) (mem_iterate_doubled (doubled_le base) n w hw).1

/-- What is true of the waits of a run, by the base that is set for them. -/
structure Backoff (base : UInt64) (waits : List UInt64) : Prop where
  first : ∀ w ∈ waits.head?, w = base
  /-- All waits but the first keep the bound. -/
  later : ∀ w ∈ waits.tail, w ≤ longestWait
  /-- All waits but the first do not shrink. -/
  laterGrow : waits.tail.Pairwise (· ≤ ·)
  bounded : (∀ w ∈ waits, w ≤ longestWait) ↔ waits = [] ∨ base ≤ longestWait
  grow : waits.Pairwise (· ≤ ·) ↔ waits.length ≤ 1 ∨ base ≤ longestWait
  /-- Twice a wait is within 64 bits. -/
  double : (∀ w ∈ waits, w.toNat * 2 < 18446744073709551616) ↔ waits = [] ∨ base.toNat < 9223372036854775808

theorem backoff_iterate (base : UInt64) (n : Nat) : Backoff base (List.iterate doubled base n) := by
  cases n with
  | zero => constructor <;> simp
  | succ n =>
    have hlater := mem_iterate_doubled (doubled_le base) n
    have hgrow := pairwise_iterate_doubled (doubled_le base) n
    have hdouble : ∀ w ∈ List.iterate doubled (doubled base) n, w.toNat * 2 < 18446744073709551616 := by
      intro w hw
      have hle := le_longestWait.1 (hlater w hw).2
      omega
    rw [List.iterate]
    refine ⟨by simp, fun w hw => (hlater w hw).2, hgrow, ?_, ?_, ?_⟩
    · rw [List.forall_mem_cons]
      exact ⟨fun h => Or.inr h.1, fun h => ⟨h.resolve_left (List.cons_ne_nil _ _), fun w hw => (hlater w hw).2⟩⟩
    · constructor
      · intro h
        cases n with
        | zero => exact Or.inl (Nat.le_refl 1)
        | succ n =>
          have hnext : base ≤ doubled base := List.rel_of_pairwise_cons h List.mem_cons_self
          exact Or.inr (UInt64.le_trans hnext (doubled_le base))
      · rintro (hlength | hbase)
        · rw [List.length_cons, List.length_iterate] at hlength
          obtain rfl : n = 0 := by omega
          exact List.pairwise_singleton ..
        · exact pairwise_iterate_doubled hbase (n + 1)
    · rw [List.forall_mem_cons]
      constructor
      · intro h
        have hbase := h.1
        exact Or.inr (by omega)
      · intro h
        have hbase := h.resolve_left (List.cons_ne_nil _ _)
        exact ⟨by omega, hdouble⟩

/-- A run that breaks down has waited once. -/
theorem exists_waits_eq_iterate {ε α : Type} (isPassing : ε → Bool) (outcomes : Nat → Except ε α) (most : UInt32)
    (wait : UInt64) : ∃ n, (loop isPassing (Record.attempt outcomes) Record.pause most 1 wait Record.empty).2.waits =
      List.iterate doubled wait n := by
  obtain ⟨k, hk, hends, hbreaks⟩ := loop_empty isPassing outcomes most wait
  by_cases h : k = 1 ∨ wait.toNat < 2 ^ 63
  · exact ⟨k - 1, by rw [hends h]⟩
  · have hpos := hk.pos
    refine ⟨1, ?_⟩
    rw [hbreaks (by omega)]
    rfl

/-- In both loops all waits behind the first keep the bound and do not shrink. With the first one they do so exactly if
the wait that is set is within the bound, or if there is no other wait; and doubling stays within 64 bits exactly if
the wait that is set has no more than 63, or is not waited at all. -/
theorem backoff_of_run {α : Type} (c : Settings.Cache) (outcomes : Nat → Except Redis.Trouble α) :
    Backoff c.retryDelay (execute Redis.Trouble.isPassing (Record.attempt outcomes) Record.pause c.maxRetries
      c.retryDelay Record.empty).2.waits ∧
    Backoff c.retryDelay (connect (Record.attempt outcomes) Record.pause c.maxRetries c.retryDelay
      Record.empty).2.waits := by
  constructor
  · obtain ⟨n, hwaits⟩ := exists_waits_eq_iterate Redis.Trouble.isPassing outcomes (max c.maxRetries 1) c.retryDelay
    rw [execute, hwaits]
    exact backoff_iterate ..
  · obtain ⟨n, hwaits⟩ := exists_waits_eq_iterate (fun _ => true) outcomes c.maxRetries c.retryDelay
    rw [connect, hwaits]
    exact backoff_iterate ..

/-- A minute is waited before the second attempt and five seconds before the third. -/
example : (connect (Record.attempt fun _ => (.error .io : Except Redis.Trouble Unit)) Record.pause 3 60000
    Record.empty).2.waits = [60000, 5000] := by
  cbv

end Bearer.Retry
