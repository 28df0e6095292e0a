import Bearer.Proofs.Service.Issuance
import Bearer.Proofs.Signing.Genuine
import Bearer.Settings.Jwt
/-! Which settings make a policy, and that nothing else that is set can make an issue under it fail. The bounds on the
lifetimes are what the rest of an issue relies on: a token ends after it is issued, and within the calendar unless that
is about to end itself. -/

namespace Bearer

theorem Algorithm.hash?_ne_none {a : Algorithm} : a.hash? ≠ none ↔ a.name ∈ ["HS256", "HS384", "HS512"] := by
  cases a <;> decide

theorem Instant.add?_ne_none_of_le {now : Instant} {d e : Duration} (hd : ¬d ≤ Duration.zero) (hle : ¬e < d)
    (h : now.add? e ≠ none) : now.add? d ≠ none := by
  obtain ⟨last, hlast⟩ := Option.ne_none_iff_exists'.1 h
  have hlast : last.nanos = now.nanos + e.nanos := add?_eq_some.1 hlast
  have hd : 0 < d.nanos := Int.not_le.1 hd
  have hle : d.nanos ≤ e.nanos := Int.not_lt.1 hle
  have hstart := now.le_nanos
  have hend := last.nanos_le
  exact Option.ne_none_iff_exists'.2 ⟨⟨now.nanos + d.nanos, by omega, by omega⟩, add?_eq_some.2 rfl⟩

/-- The lifetimes of a policy in order fit in wherever the longest one does. -/
theorem Policy.hasEnds_of_longest {p : Policy} (hp : p.check = .ok ()) {now : Instant} (h : now.add? longest ≠ none) :
    p.HasEnds now := by
  obtain ⟨-, -, -, haccess, hrefresh, hlongest, -⟩ := check_eq_ok.1 hp
  rw [not_or] at hlongest
  have haccess := Instant.add?_ne_none_of_le haccess hlongest.1 h
  have hrefresh := Instant.add?_ne_none_of_le hrefresh hlongest.2 h
  simp [HasEnds, haccess, hrefresh]

theorem bind_eq_ok {α β : Type} {r : Except Fault α} {f : α → Except Fault β} {b : β} :
    r >>= f = .ok b ↔ ∃ a, r = .ok a ∧ f a = .ok b := by
  cases r <;> simp [bind, Except.bind]

namespace Settings.Jwt

variable {j : Jwt} {p : Policy}

theorem lifetime_eq_ok (kind : TokenKind) {seconds : Int64} {d : Duration} :
    lifetime seconds kind = .ok d ↔ d.nanos = seconds.toInt * 1000000000 := by
  rw [← Duration.ofNanos?_eq_some, lifetime, Duration.ofSeconds?]
  split <;> simp [*]

/-- A policy is made of the settings as they are, once it is found in order. -/
theorem policy_eq_ok : j.policy = .ok p ↔ p.check = .ok () ∧ p.secret = j.secret ∧ p.algorithm.name = j.algorithm ∧
    p.issuer = j.issuer ∧ p.accessTtl.nanos = j.accessExpiry.toInt * 1000000000 ∧
    p.refreshTtl.nanos = j.refreshExpiry.toInt * 1000000000 ∧ p.refreshBytes = j.refreshBytes.toNat := by
  rw [eq_comm (b := j.algorithm), ← Algorithm.ofName?_eq_some, ← lifetime_eq_ok .access,
    ← lifetime_eq_ok .refresh]
  unfold policy
  cases Algorithm.ofName? j.algorithm with
  | none => simp [throw, throwThe, MonadExceptOf.throw]
  | some a =>
    simp only [bind_eq_ok, Option.some.injEq]
    constructor
    · rintro ⟨d, haccess, e, hrefresh, ⟨⟩, hcheck, ⟨⟩⟩
      exact ⟨hcheck, rfl, rfl, rfl, haccess, hrefresh, rfl⟩
    · obtain ⟨secret, algorithm, issuer, accessTtl, refreshTtl, refreshBytes⟩ := p
      rintro ⟨hcheck, rfl, rfl, rfl, haccess, hrefresh, rfl⟩
      exact ⟨_, haccess, _, hrefresh, (), hcheck, rfl⟩

/-- Settings of which a policy can be made. -/
structure Acceptable (j : Jwt) : Prop where
  algorithm : j.algorithm ∈ ["HS256", "HS384", "HS512"]
  secret : j.secret ≠ ""
  issuer : j.issuer ≠ ""
  access : 1 ≤ j.accessExpiry.toInt ∧ j.accessExpiry.toInt ≤ 315360000
  refresh : 1 ≤ j.refreshExpiry.toInt ∧ j.refreshExpiry.toInt ≤ 315360000
  bytes : 16 ≤ j.refreshBytes.toNat

/-- What `Policy.check` asks of a lifetime, of one that is set in seconds. -/
theorem lifetime_inRange {ttl : Duration} {seconds : Int} (h : ttl.nanos = seconds * 1000000000) :
    ¬ttl ≤ Duration.zero ∧ ¬Policy.longest < ttl ↔ 1 ≤ seconds ∧ seconds ≤ 315360000 := by
  show ¬ttl.nanos ≤ 0 ∧ ¬3650 * 86400 * 1000000000 < ttl.nanos ↔ _
  omega

theorem acceptable_iff : (∃ p, j.policy = .ok p) ↔ j.Acceptable := by
  constructor
  · rintro ⟨p, hp⟩
    obtain ⟨hcheck, hsecret, halgorithm, hissuer, haccess, hrefresh, hbytes⟩ := policy_eq_ok.1 hp
    obtain ⟨hsecret', hhash, hissuer', haccess', hrefresh', hlongest, hbytes'⟩ := Policy.check_eq_ok.1 hcheck
    rw [not_or] at hlongest
    exact ⟨halgorithm ▸ Algorithm.hash?_ne_none.1 hhash, hsecret ▸ hsecret', hissuer ▸ hissuer',
      (lifetime_inRange haccess).1 ⟨haccess', hlongest.1⟩, (lifetime_inRange hrefresh).1 ⟨hrefresh', hlongest.2⟩,
      hbytes ▸ hbytes'⟩
  · rintro ⟨halgorithm, hsecret, hissuer, haccess, hrefresh, hbytes⟩
    obtain ⟨a, ha⟩ : ∃ a : Algorithm, a.name = j.algorithm := by
      simp only [List.mem_cons, List.not_mem_nil, or_false] at halgorithm
      rcases halgorithm with h | h | h
      · exact ⟨.hs256, h.symm⟩
      · exact ⟨.hs384, h.symm⟩
      · exact ⟨.hs512, h.symm⟩
    let accessTtl : Duration := ⟨j.accessExpiry.toInt * 1000000000, by omega, by omega⟩
    let refreshTtl : Duration := ⟨j.refreshExpiry.toInt * 1000000000, by omega, by omega⟩
    have haccess : ¬accessTtl ≤ Duration.zero ∧ ¬Policy.longest < accessTtl := (lifetime_inRange rfl).2 haccess
    have hrefresh : ¬refreshTtl ≤ Duration.zero ∧ ¬Policy.longest < refreshTtl := (lifetime_inRange rfl).2 hrefresh
    refine ⟨⟨j.secret, a, j.issuer, accessTtl, refreshTtl, j.refreshBytes.toNat⟩,
      policy_eq_ok.2 ⟨Policy.check_eq_ok.2 ?_, rfl, ha, rfl, rfl, rfl, rfl⟩⟩
    exact ⟨hsecret, Algorithm.hash?_ne_none.2 (ha ▸ halgorithm), hissuer, haccess.1, hrefresh.1,
      not_or.2 ⟨haccess.2, hrefresh.2⟩, hbytes⟩

/-- Settings are taken just when they name an algorithm that signs with a secret, have a secret and an issuer, lifetimes
between a second and 3650 days and refresh values of 16 bytes or more. Under the policy that is made of them an issue
gives a pair to any user, at any time that the longest lifetime does not take out of the calendar, unless the value that
is drawn is stored already. -/
theorem issue_of_accepted (j : Jwt) : ((∃ p, j.policy = .ok p) ↔ j.Acceptable) ∧
    ∀ p, j.policy = .ok p → ∀ (user : Uuid) (now : Instant), now.add? Policy.longest ≠ none →
      ∀ (others : (r : Request) → r.Answer) (d : Draws) (s : RefreshStore),
        (s.get? (d.values 0) = none ∧ ∃ pair s', (p.issue user).run.alone now others d s = (.ok pair, s')) ∨
        (s.get? (d.values 0) ≠ none ∧ (p.issue user).run.alone now others d s =
          (.error (.repository "Refresh token value already stored"), s)) := by
  refine ⟨acceptable_iff, fun p hp user now hnow others d s => ?_⟩
  have hcheck := (policy_eq_ok.1 hp).1
  have hends := Policy.hasEnds_of_longest hcheck hnow
  obtain ⟨r, s', hrun, hissued⟩ := Policy.issued_alone hcheck others s user now d
  rw [hrun]
  cases hissued with
  | overflowed ttl hmem hadd => exact absurd hadd (hends ttl hmem)
  | collided _ hdrawn => exact .inr ⟨hdrawn, rfl⟩
  | stored pair _ hdrawn => exact .inl ⟨hdrawn, pair, _, rfl⟩

/-- The bounds themselves are accepted, and there is an issue that ends with the calendar. -/
theorem issue_of_accepted_bounds : ∃ p now, (Jwt.mk "s" 315360000 1 "i" "HS384" 16).policy = .ok p ∧
    now.add? p.accessTtl = some ⟨8210266876799 * 1000000000 + 999999999, by omega, by omega⟩ ∧
    ∀ others d, ∃ pair s', (p.issue (Uuid.ofNat 7)).run.alone now others d .empty = (.ok pair, s') := by
  let last : Instant := ⟨8210266876799 * 1000000000 + 999999999, by omega, by omega⟩
  let now : Instant := ⟨last.nanos - Policy.longest.nanos, by decide, by decide⟩
  obtain ⟨hmade, hissues⟩ := issue_of_accepted ⟨"s", 315360000, 1, "i", "HS384", 16⟩
  obtain ⟨p, hp⟩ := hmade.2 ⟨by simp, by simp, by simp, by decide, by decide, by decide⟩
  have haccess : p.accessTtl.nanos = 315360000 * 1000000000 := (policy_eq_ok.1 hp).2.2.2.2.1
  refine ⟨p, now, hp, Instant.add?_eq_some.2 ?_, fun others d => ?_⟩
  · rw [haccess]
    rfl
  · rcases hissues p hp (Uuid.ofNat 7) now (by decide) others d .empty with ⟨-, hpair⟩ | ⟨hdrawn, -⟩
    · exact hpair
    · exact absurd rfl hdrawn

end Settings.Jwt

end Bearer
