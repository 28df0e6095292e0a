import Bearer.Proofs.Service.Issuance
/-! What an exchange comes to and what it leaves in the store, for each state of the value that was presented. A value
that is refused changes nothing. One that is accepted is used up before the new pair is made, so that it stays used up
when the pair cannot be made or stored. -/

namespace Bearer

namespace Policy

/-- What an exchange comes to that has found its token usable, with the value drawn for the next one. -/
inductive Redeemed (p : Policy) (s : RefreshStore) (v : String) (t : Token) (now : Instant) (drawn : String) :
    Except Fault TokenPair → RefreshStore → Prop
  | overflowed {s' : RefreshStore} (ttl : Duration) : ttl ∈ [p.accessTtl, p.refreshTtl] → now.add? ttl = none →
      s.Spends v t s' →
      Redeemed p s v t now drawn
        (.error (.internal ("Token expiry overflows the calendar: " ++ now.text ++ " + " ++ ttl.text))) s'
  | collided {s' : RefreshStore} : p.HasEnds now → s.get? drawn ≠ none → s.Spends v t s' →
      Redeemed p s v t now drawn (.error (.repository "Refresh token value already stored")) s'
  | issued {s' : RefreshStore} (pair : TokenPair) : p.HasEnds now → s.get? drawn = none →
      p.PairFor t.user now drawn pair →
      (∀ w, s'.get? w = if w = drawn then some pair.refresh else if w = v then some t.revoke else s.get? w) →
      Redeemed p s v t now drawn (.ok pair) s'

variable {p : Policy} {now : Instant} {others : (r : Request) → r.Answer} {d : Draws} {s : RefreshStore} {v : String}
  {t : Token}

/-- The rest of an exchange is an issue over the store in which the value is spent. -/
theorem redeemed_of_usable (hp : p.check = .ok ()) (h : s.get? v = some t) (hu : t.isUsable now = true) :
    p.Redeemed s v t now (d.values 0) ((p.rotate v).run.alone now others d s).1
      ((p.rotate v).run.alone now others d s).2 := by
  have hspends := RefreshStore.spends_tryRevoke h
  have hstored := hspends.get?_eq_none h
  obtain ⟨r, s', hrun, hissued⟩ := issued_alone hp others (s.tryRevoke v).2 t.user now d
  rw [alone_rotate_of_usable p h hu, hrun]
  cases hissued with
  | overflowed ttl hmem hadd => exact .overflowed ttl hmem hadd hspends
  | collided hends hdrawn => exact .collided hends (mt (hstored _).2 hdrawn) hspends
  | stored pair hends hdrawn hpair =>
    refine .issued pair hends ((hstored _).1 hdrawn) hpair.toPairFor fun w => ?_
    rw [RefreshStore.get?_add _ _ w (hpair.value ▸ hdrawn), hspends w, hpair.value]

theorem Redeemed.not_token {r : Except Fault TokenPair} {s' : RefreshStore} {drawn : String}
    (h : p.Redeemed s v t now drawn r s') (f : TokenFault) : r ≠ .error (.token f) := by
  cases h <;> simp

end Policy

namespace Service

/-- Of a service that was put together in order, for any store, value, reading of the clock and draws. A value that is
not stored is invalid; an expired one is refused as expired, whether or not it is revoked, and a revoked one as revoked;
then the store stays as it is. A value that is usable is revoked in any case. If one of the new tokens would end past
the calendar, or if the value drawn is stored already, the exchange fails and nothing else is changed; otherwise there
is a pair for the same user, made at that time, and its refresh token is all that is new in the store. -/
theorem rotation_outcome {plan : Plan} {svc : Service} (h : build plan = .ok svc) (others : (r : Request) → r.Answer)
    (s : RefreshStore) (v : String) (now : Instant) (d : Draws) :
    ∃ r s', (svc.policy.rotate v).run.alone now others d s = (r, s') ∧
      (svc.refresh v).run.alone now others d s = (r.map TokenPair.grant, s') ∧
      (r = .error (.token .invalid) ↔ s.get? v = none) ∧
      (r = .error (.token .expired) ↔ ∃ t, s.get? v = some t ∧ t.expiresAt ≤ now) ∧
      (r = .error (.token .revoked) ↔ ∃ t, s.get? v = some t ∧ now < t.expiresAt ∧ t.revoked = true) ∧
      (∀ f, r = .error (.token f) → s' = s) ∧
      ∀ t, s.get? v = some t → now < t.expiresAt → t.revoked = false →
        svc.policy.Redeemed s v t now (d.values 0) r s' := by
  have hp : svc.policy.check = .ok () := by
    obtain ⟨hcheck, -, -, rfl⟩ := build_eq_ok.1 h
    exact hcheck
  have hredeemed {t : Token} (ht : s.get? v = some t) (hu : t.isUsable now = true) :
      svc.policy.Redeemed s v t now (d.values 0) ((svc.policy.rotate v).run.alone now others d s).1
        ((svc.policy.rotate v).run.alone now others d s).2 :=
    Policy.redeemed_of_usable hp ht hu
  cases hrotated : (svc.policy.rotate v).run.alone now others d s with
  | mk r s' =>
    rw [hrotated] at hredeemed
    refine ⟨r, s', rfl, by rw [run_refresh, Call.alone_map, hrotated], ?_⟩
    cases hv : s.get? v with
    | none =>
      rw [alone_rotate_of_missing svc.policy hv] at hrotated
      cases hrotated
      simp
    | some t =>
      by_cases he : t.expiresAt ≤ now
      · rw [alone_rotate_of_expired svc.policy hv (decide_eq_true he)] at hrotated
        cases hrotated
        have hended : ¬now < t.expiresAt := Int.not_lt.2 he
        simp [he, hended]
      · have hlive : now < t.expiresAt := Int.not_le.1 he
        have hnot : t.isExpired now = false := decide_eq_false he
        cases hr : t.revoked with
        | true =>
          rw [alone_rotate_of_revoked svc.policy hv hnot hr] at hrotated
          cases hrotated
          simp [he, hlive, hr]
        | false =>
          have hused := hredeemed hv (Token.isUsable_eq_true.2 ⟨hnot, hr⟩)
          have hnone := hused.not_token
          simp [he, hr, hnone, hused]

/-- The generator draws the value that is being exchanged. It is used up, and there is no pair for it. -/
theorem rotation_outcome_collided : ∃ (plan : Plan) (svc : Service) (s : RefreshStore) (t : Token) (d : Draws),
    build plan = .ok svc ∧ s.get? "r" = some t ∧ t.revoked = false ∧ d.values 0 = "r" ∧
      ∀ others, ∃ s', (svc.refresh "r").run.alone Instant.epoch others d s =
          (.error (.repository "Refresh token value already stored"), s') ∧
        s'.get? "r" = some t.revoke := by
  let t : Token := ⟨Uuid.ofNat 1, Uuid.ofNat 7, "r", .refresh, Instant.epoch, ⟨1, by omega, by omega⟩, false⟩
  let s : RefreshStore := (RefreshStore.empty.add t).2
  let d : Draws := ⟨Uuid.ofNat, fun _ => "r"⟩
  have hbuild : build ⟨.development, true, true, none⟩ = .ok ⟨.development, none⟩ := rfl
  have hs : s.get? "r" = some t := rfl
  have hends : Policy.development.HasEnds Instant.epoch := by unfold Policy.HasEnds; decide
  refine ⟨_, _, s, t, d, hbuild, hs, rfl, rfl, fun others => ?_⟩
  obtain ⟨r, s', -, hrefresh, -, -, -, -, hredeemed⟩ := rotation_outcome hbuild others s "r" Instant.epoch d
  refine ⟨s', ?_⟩
  cases hredeemed t hs (by decide) rfl with
  | overflowed ttl hmem hadd => exact absurd hadd (hends ttl hmem)
  | collided _ hdrawn hspends => exact ⟨hrefresh, by rw [hspends, if_pos rfl]⟩
  | issued pair _ hdrawn => cases hs.symm.trans hdrawn

end Service

end Bearer
