import Bearer.Proofs.Call.Reach
import Bearer.Proofs.Service.Faults
import Bearer.Proofs.Service.Minted
import Bearer.Proofs.Signing.Verify
/-! For how long an issued access token is good. Its end is signed in whole seconds, rounded down, and the clock is
finer than that, so a token can be past its signed end before its own end and, if it lives for less than a second, from
the start. -/

namespace Bearer

namespace Instant

variable {now later : Instant} {d : Duration}

theorem floor_le (t : Instant) : t.floor ≤ t := by
  simp only [le_def, floor, seconds]
  omega

/-- The end of a span falls behind its start when it is rounded down, if the span does not get to the next second. -/
theorem le_floor_of_add? (hd : 0 < d.nanos) (h : now.add? d = some later) :
    now ≤ later.floor ↔ now.subsecond = 0 ∨ 1000000000 ≤ now.subsecond + d.nanos := by
  have hlater := add?_eq_some.1 h
  -- the whole seconds of `now` are on both sides and cancel
  simp only [le_def, floor, seconds, subsecond, hlater]
  omega

end Instant

namespace Policy

variable {p : Policy} {user : Uuid} {now : Instant}

theorem minted_of_reaches {xs : List Exchange} {pair : TokenPair}
    (h : (p.issue user).run.Reaches (⟨.now, now⟩ :: xs) (.done (.ok pair))) :
    p.Minted user now pair.refresh.value pair := by
  rw [issue_eq_mint] at h
  cases h with
  | there a h =>
    let told : (r : Request) → r.Answer → Prop := fun _ _ => True
    have hpair : Action.Behaves told (p.StoresDrawn told) (p.MintedOf told user now) (p.mint user now) :=
      p.behaves_mint user now
    exact (h.behaves hpair fun _ _ => trivial).toMinted

/-- What an access token that is signed for a time from the epoch on is to those who verify it. -/
theorem Minted.run_verify {value : String} {pair : TokenPair} (hp : p.check = .ok ()) (hnow : .epoch ≤ now)
    (h : p.Minted user now value pair) :
    (p.verify pair.access.value).run = .ask .now fun later =>
      .done (if pair.access.expiresAt.floor < later then .error (.token .expired)
        else .ok ⟨user, p.issuer, now.floor, pair.access.expiresAt.floor⟩) := by
  obtain ⟨-, -, -, hpos, -⟩ := check_eq_ok.1 hp
  obtain ⟨hash, hhash⟩ := hash?_of_check hp
  have hlives : now < pair.access.expiresAt := lt_of_expiry hpos (expiry_of_add? h.ends.1)
  have hsince : ¬pair.access.expiresAt.floor < .epoch := by
    simp only [Instant.floor_lt_epoch, Instant.seconds]
    simp only [Instant.le_def, Instant.lt_def, Instant.epoch] at hnow hlives
    omega
  have hvalue := h.signed
  rw [sign_eq hhash, Except.ok.injEq] at hvalue
  rw [Policy.run_verify, ← hvalue, claims?_sign hhash, if_neg (not_or.2 ⟨not_not.2 rfl, hsince⟩)]

/-- Whoever verifies an access token that was issued from the epoch on asks for the time, and is told whose it is up to
the last whole second of its life, and from then on that it is expired. So it is expired whenever it is past its end. At
the time of its issue it is good just when that is a whole second or its life gets to the next one. -/
theorem lifespan_of_issued (hp : p.check = .ok ()) (hnow : .epoch ≤ now) {xs : List Exchange} {pair : TokenPair}
    (h : (p.issue user).run.Reaches (⟨.now, now⟩ :: xs) (.done (.ok pair))) :
    ∃ verdict : Instant → Except Fault Claims,
      (p.verify pair.access.value).run = .ask .now (fun later => .done (verdict later)) ∧
      (∀ later, later ≤ pair.access.expiresAt.floor →
        verdict later = .ok ⟨user, p.issuer, now.floor, pair.access.expiresAt.floor⟩) ∧
      (∀ later, pair.access.expiresAt.floor < later → verdict later = .error (.token .expired)) ∧
      (∀ later, pair.access.expiresAt < later → verdict later = .error (.token .expired)) ∧
      ((∃ c, verdict now = .ok c) ↔ now.subsecond = 0 ∨ 1000000000 ≤ now.subsecond + p.accessTtl.nanos) := by
  have hpair := minted_of_reaches h
  have hpos : 0 < p.accessTtl.nanos := Int.not_le.1 (check_eq_ok.1 hp).2.2.2.1
  have hbefore {later : Instant} (hle : later ≤ pair.access.expiresAt.floor) : ¬pair.access.expiresAt.floor < later :=
    Int.not_lt.2 hle
  have hbehind {later : Instant} (hlt : pair.access.expiresAt < later) : pair.access.expiresAt.floor < later :=
    Int.lt_of_le_of_lt (Instant.floor_le _) hlt
  refine ⟨_, hpair.run_verify hp hnow, fun later hle => if_neg (hbefore hle), fun later hlt => if_pos hlt,
    fun later hlt => if_pos (hbehind hlt), ?_⟩
  rw [← Instant.le_floor_of_add? hpos hpair.ends.1]
  split
  · next hlt => exact iff_of_false (by simp) fun hle => hbefore hle hlt
  · next hlt => exact iff_of_true ⟨_, rfl⟩ (Int.not_lt.1 hlt)

/-- Half a second that begins and ends within one second: the token is expired when it is handed out. -/
theorem lifespan_of_issued_expired : ∃ (p : Policy) (now : Instant) (xs : List Exchange) (pair : TokenPair),
    p.check = .ok () ∧ p.accessTtl.nanos = 500000000 ∧ now.nanos = 1700000000200000000 ∧
      (p.issue (Uuid.ofNat 7)).run.Reaches (⟨.now, now⟩ :: xs) (.done (.ok pair)) ∧ now < pair.access.expiresAt ∧
      ∃ next, (p.verify pair.access.value).run = .ask .now next ∧ next now = .done (.error (.token .expired)) := by
  let p : Policy := { development with accessTtl := ⟨500000000, by omega, by omega⟩ }
  let now : Instant := ⟨1700000000200000000, by omega, by omega⟩
  obtain ⟨xs, pair, h⟩ : ∃ xs pair, (p.issue (Uuid.ofNat 7)).run.Reaches (⟨.now, now⟩ :: xs) (.done (.ok pair)) := by
    have h := Call.Reaches.here (p.issue (Uuid.ofNat 7)).run
    have h := h.snoc (r := .now) now
    have h := h.snoc (r := .freshId) (Uuid.ofNat 1)
    have h := h.snoc (r := .freshId) (Uuid.ofNat 2)
    have h := h.snoc (r := .freshValue 64) "r"
    exact ⟨_, _, h.snoc (r := .add _) (.ok ())⟩
  obtain ⟨verdict, hverify, -, hpast, -⟩ := lifespan_of_issued (p := p) rfl (by decide) h
  have hend : pair.access.expiresAt.nanos = 1700000000700000000 := Instant.add?_eq_some.1 (minted_of_reaches h).ends.1
  refine ⟨p, now, xs, pair, rfl, rfl, rfl, h, ?_, _, hverify, congrArg Call.done (hpast now ?_)⟩
  · rw [Instant.lt_def, hend]
    decide
  · simp only [Instant.lt_def, Instant.floor, Instant.seconds, hend]
    decide

end Policy

end Bearer
