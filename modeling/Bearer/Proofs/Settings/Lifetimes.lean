import Bearer.Proofs.Settings.Accepted
import Mathlib.Algebra.Group.Int.Defs
/-! Lifetimes that are given in minutes and in days. They are kept as seconds in 64 bits. Where these do not hold the
seconds there are no settings at all, and whatever else is out of bounds is refused when a policy is made of them; so
no token has another lifetime than the one that was given. -/

namespace Bearer.Settings.Jwt

/-- Settings with a secret and lifetimes in minutes and days. -/
def withLifetimes? (secret : String) (minutes days : Int64) : Option Jwt :=
  ((withSecret secret).withAccessMinutes? minutes).bind fun j => j.withRefreshDays? days

/-- What 64 bits hold, one of them for the sign. -/
def Fits (n : Int) : Prop := -2 ^ 63 ≤ n ∧ n < 2 ^ 63

section

variable {count s : Int64} {each : Int}

theorem seconds?_eq_some : seconds? count each = some s ↔ s.toInt = each * count.toInt := by
  have hle := s.le_toInt
  have hlt := s.toInt_lt
  rw [seconds?, Int.mul_comm]
  split
  · next hfits =>
    have hself : (Int64.ofInt (each * count.toInt)).toInt = each * count.toInt :=
      Int64.toInt_ofInt_of_le hfits.1 (Int.lt_add_one_of_le hfits.2)
    rw [Option.some.injEq, ← Int64.toInt_inj, hself, eq_comm]
  · next hno => exact iff_of_false nofun fun h => hno (by omega)

theorem seconds?_eq_none : seconds? count each = none ↔ ¬Fits (each * count.toInt) := by
  rw [seconds?, Int.mul_comm, Fits]
  split
  · next hfits => exact iff_of_false nofun fun h => h (by omega)
  · next hno => exact iff_of_true rfl fun h => hno (by omega)

end

variable {secret : String} {minutes days : Int64} {j : Jwt}

theorem withLifetimes?_eq_some : withLifetimes? secret minutes days = some j ↔
    ∃ a r, a.toInt = 60 * minutes.toInt ∧ r.toInt = 86400 * days.toInt ∧
      j = { withSecret secret with accessExpiry := a, refreshExpiry := r } := by
  simp only [withLifetimes?, withAccessMinutes?, withRefreshDays?, Option.bind_eq_some_iff, Option.map_eq_some_iff,
    seconds?_eq_some]
  constructor
  · rintro ⟨_, ⟨a, ha, rfl⟩, r, hr, rfl⟩
    exact ⟨a, r, ha, hr, rfl⟩
  · rintro ⟨a, r, ha, hr, rfl⟩
    exact ⟨_, ⟨a, ha, rfl⟩, r, hr, rfl⟩

theorem withLifetimes?_eq_none : withLifetimes? secret minutes days = none ↔
    ¬(Fits (60 * minutes.toInt) ∧ Fits (86400 * days.toInt)) := by
  rw [not_and_or, ← seconds?_eq_none, ← seconds?_eq_none, withLifetimes?, withAccessMinutes?]
  cases seconds? minutes 60 with
  | none => simp
  | some a => simp [withRefreshDays?]

/-- Of such settings the lifetimes alone can be refused. -/
theorem acceptable_of_withLifetimes? (hsecret : secret ≠ "") (h : withLifetimes? secret minutes days = some j) :
    j.Acceptable ↔ (0 < 60 * minutes.toInt ∧ 60 * minutes.toInt ≤ 315360000) ∧ 0 < days.toInt ∧ days.toInt ≤ 3650 := by
  obtain ⟨a, r, ha, hr, rfl⟩ := withLifetimes?_eq_some.1 h
  constructor
  · rintro ⟨-, -, -, haccess, hrefresh, -⟩
    dsimp only at haccess hrefresh
    omega
  · intro hbounds
    have halgorithm : "HS256" ∈ ["HS256", "HS384", "HS512"] := by decide
    have hissuer : "tokenkeep" ≠ "" := by decide
    have hbytes : 16 ≤ (64 : UInt64).toNat := by decide
    refine ⟨halgorithm, hsecret, hissuer, ?_, ?_, hbytes⟩ <;> dsimp only <;> omega

/-- Settings with lifetimes in minutes and days are there exactly if 64 bits hold the seconds of both. They keep both
as they were given, and so does a policy that is made of them; and one is made just when both are positive and at most
3650 days. -/
theorem lifetimes_of_units (hsecret : secret ≠ "") (minutes days : Int64) :
    ((∃ j p, withLifetimes? secret minutes days = some j ∧ j.policy = .ok p) ↔
      (0 < 60 * minutes.toInt ∧ 60 * minutes.toInt ≤ 315360000) ∧ 0 < days.toInt ∧ days.toInt ≤ 3650) ∧
    (∀ j, withLifetimes? secret minutes days = some j →
      j.accessExpiry.toInt = 60 * minutes.toInt ∧ j.refreshExpiry.toInt = 86400 * days.toInt ∧
      ∀ p, j.policy = .ok p → p.accessTtl.nanos = 60 * minutes.toInt * 1000000000 ∧
        p.refreshTtl.nanos = 86400 * days.toInt * 1000000000) ∧
    (withLifetimes? secret minutes days = none ↔ ¬(Fits (60 * minutes.toInt) ∧ Fits (86400 * days.toInt))) := by
  have hkept : ∀ j, withLifetimes? secret minutes days = some j →
      j.accessExpiry.toInt = 60 * minutes.toInt ∧ j.refreshExpiry.toInt = 86400 * days.toInt := by
    intro j hj
    obtain ⟨a, r, ha, hr, rfl⟩ := withLifetimes?_eq_some.1 hj
    exact ⟨ha, hr⟩
  refine ⟨?_, fun j hj => ?_, withLifetimes?_eq_none⟩
  · constructor
    · rintro ⟨j, p, hj, hp⟩
      exact (acceptable_of_withLifetimes? hsecret hj).1 (acceptable_iff.1 ⟨p, hp⟩)
    · intro hbounds
      have hfits : Fits (60 * minutes.toInt) ∧ Fits (86400 * days.toInt) := by
        unfold Fits
        omega
      obtain ⟨j, hj⟩ := Option.ne_none_iff_exists'.1 fun hnone => withLifetimes?_eq_none.1 hnone hfits
      obtain ⟨p, hp⟩ := acceptable_iff.2 ((acceptable_of_withLifetimes? hsecret hj).2 hbounds)
      exact ⟨j, p, hj, hp⟩
  · obtain ⟨haccess, hrefresh⟩ := hkept j hj
    refine ⟨haccess, hrefresh, fun p hp => ?_⟩
    obtain ⟨-, -, -, -, hp, hp', -⟩ := policy_eq_ok.1 hp
    rw [hp, hp', haccess, hrefresh]
    exact ⟨rfl, rfl⟩

/-- The longest lifetimes that there can be. -/
theorem lifetimes_of_units_longest : "s" ≠ "" ∧
    ∃ j p, withLifetimes? "s" 5256000 3650 = some j ∧ j.policy = .ok p ∧
      p.accessTtl.nanos = 315360000 * 1000000000 ∧ p.refreshTtl.nanos = 315360000 * 1000000000 := by
  have hsecret : "s" ≠ "" := by decide
  obtain ⟨htaken, hkept, -⟩ := lifetimes_of_units hsecret 5256000 3650
  obtain ⟨j, p, hj, hp⟩ := htaken.2 (by decide)
  obtain ⟨-, -, httl⟩ := hkept j hj
  exact ⟨hsecret, j, p, hj, hp, httl p hp⟩

/-- A minute more than what 64 bits hold as seconds. -/
example : (withSecret "s").withAccessMinutes? 153722867280912931 = none := by
  decide

end Bearer.Settings.Jwt
