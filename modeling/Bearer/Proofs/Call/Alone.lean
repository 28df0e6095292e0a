import Bearer.Proofs.Call.Given
import Bearer.Proofs.Service.Faults
import Bearer.Proofs.Service.Minted
import Bearer.Proofs.Signing.Verify
import Bearer.Proofs.Store.Growth
/-! A call that has a store to itself while the clock stands still: what it comes to and the store that it leaves. Of a
policy in order the three operations on refresh tokens come out in one way for each state that a token can be in. -/

namespace Bearer

/-- A store answers what is asked of it, others answer the rest. -/
def RefreshStore.answer (others : (r : Request) → r.Answer) : (r : Request) → RefreshStore → r.Answer × RefreshStore
  | .find v, s => (s.get v, s)
  | .tryRevoke v, s => (.ok (s.tryRevoke v).1, (s.tryRevoke v).2)
  | .add t, s => s.add t
  | r, s => (others r, s)

/-- The call with one reading of the clock and with what the generators will give to it. -/
def Call.alone {α : Type} (now : Instant) (others : (r : Request) → r.Answer) (d : Draws) (c : Call α)
    (s : RefreshStore) : α × RefreshStore :=
  let (a, s', _) := c.run (Call.drawing now (RefreshStore.answer others)) (s, d)
  (a, s')

section

variable {α β : Type} {now : Instant} {others : (r : Request) → r.Answer} {d : Draws} {s : RefreshStore} {v : String}
  {t : Token}

theorem Call.alone_eq (c : Call α) : c.alone now others d s = (c.given now d).run (RefreshStore.answer others) s :=
  (c.run_given now _ s d).symm

/-- What is made of the result of a call does not touch the store. -/
theorem Call.alone_map (c : Call α) (f : α → β) :
    (c.bind fun a => .done (f a)).alone now others d s = (f (c.alone now others d s).1, (c.alone now others d s).2) := by
  simp only [alone, Call.run_bind]
  rfl

theorem alone_rotate_of_missing (p : Policy) (h : s.get? v = none) :
    (p.rotate v).run.alone now others d s = (.error (.token .invalid), s) := by
  rw [Call.alone_eq, Policy.given_rotate, Call.run]
  simp only [RefreshStore.answer, RefreshStore.get_eq_error.2 ⟨h, rfl⟩]
  rfl

theorem alone_rotate_of_stored (p : Policy) (h : s.get? v = some t) :
    (p.rotate v).run.alone now others d s = (p.rotateFound now d v t).run (RefreshStore.answer others) s := by
  rw [Call.alone_eq, Policy.given_rotate, Call.run]
  simp only [RefreshStore.answer, RefreshStore.get_eq_ok.2 h]

theorem alone_rotate_of_expired (p : Policy) (h : s.get? v = some t) (he : t.isExpired now = true) :
    (p.rotate v).run.alone now others d s = (.error (.token .expired), s) := by
  rw [alone_rotate_of_stored p h, Policy.rotateFound_of_expired he]
  rfl

theorem alone_rotate_of_revoked (p : Policy) (h : s.get? v = some t) (he : t.isExpired now = false)
    (hr : t.revoked = true) : (p.rotate v).run.alone now others d s = (.error (.token .revoked), s) := by
  rw [alone_rotate_of_stored p h, Policy.rotateFound_of_revoked he hr]
  rfl

/-- A usable token is revoked, and the rest is an issue. -/
theorem alone_rotate_of_usable (p : Policy) (h : s.get? v = some t) (hu : t.isUsable now = true) :
    (p.rotate v).run.alone now others d s = (p.issue t.user).run.alone now others d (s.tryRevoke v).2 := by
  have hwon : (s.tryRevoke v).1 = true := RefreshStore.tryRevoke_fst.2 ⟨t, h, (Token.isUsable_eq_true.1 hu).2⟩
  rw [alone_rotate_of_stored p h, Policy.rotateFound_of_usable hu, Policy.redeem, Call.run, Call.alone_eq]
  simp only [RefreshStore.answer, hwon]

theorem alone_withdraw_of_missing (h : s.get? v = none) :
    (withdraw v).run.alone now others d s = (.error (.token .invalid), s) := by
  rw [Call.alone_eq, given_withdraw, Call.run]
  simp only [RefreshStore.answer, RefreshStore.get_eq_error.2 ⟨h, rfl⟩]
  rfl

theorem alone_withdraw_of_stored (h : s.get? v = some t) :
    (withdraw v).run.alone now others d s = (withdrawFound now v t).run (RefreshStore.answer others) s := by
  rw [Call.alone_eq, given_withdraw, Call.run]
  simp only [RefreshStore.answer, RefreshStore.get_eq_ok.2 h]

theorem alone_withdraw_of_unusable (h : s.get? v = some t) (hu : t.isUsable now = false) :
    (withdraw v).run.alone now others d s = (.ok (), s) := by
  rw [alone_withdraw_of_stored h, withdrawFound_of_unusable hu]
  rfl

theorem alone_withdraw_of_usable (h : s.get? v = some t) (hu : t.isUsable now = true) :
    (withdraw v).run.alone now others d s = (.ok (), (s.tryRevoke v).2) := by
  rw [alone_withdraw_of_stored h, withdrawFound_of_usable hu]
  rfl

end

namespace Policy

variable {p : Policy} {now : Instant} {others : (r : Request) → r.Answer} {d : Draws} {s : RefreshStore} {user : Uuid}
  {accessEnd refreshEnd : Instant} {f : Fault}

theorem alone_issue_of_no_access (h : expiry now p.accessTtl = .error f) :
    (p.issue user).run.alone now others d s = (.error f, s) := by
  rw [Call.alone_eq, run_issue]
  simp only [Call.given, run_accessToken, h, Call.done_bind]
  rfl

/-- With an end for the access token, signing and making it do not fail. -/
theorem given_issue_of_access (hp : p.check = .ok ()) (user : Uuid) (d : Draws)
    (h : expiry now p.accessTtl = .ok accessEnd) :
    ∃ value, p.sign ⟨user, p.issuer, now, accessEnd⟩ (some (d.ids 0)) = .ok value ∧ (p.issue user).run.given now d =
      ((p.refreshToken user now).run.bind fun
        | .error f => .done (.error f)
        | .ok refresh => .ask (.add refresh) fun r =>
          .done (r.map fun _ => ⟨⟨d.ids 0, user, value, .access, now, accessEnd, false⟩, refresh⟩)).given now
        d.skipId := by
  obtain ⟨-, -, -, hpos, -⟩ := check_eq_ok.1 hp
  obtain ⟨hash, hhash⟩ := hash?_of_check hp
  obtain ⟨value, hsign⟩ : ∃ value, p.sign ⟨user, p.issuer, now, accessEnd⟩ (some (d.ids 0)) = .ok value :=
    ⟨_, sign_eq hhash _ _⟩
  have hcreate : Token.create (d.ids 0) user value .access now accessEnd =
      .ok ⟨d.ids 0, user, value, .access, now, accessEnd, false⟩ :=
    Token.create_eq_ok.2 ⟨lt_of_expiry hpos h, rfl⟩
  have hissue := congrArg (Call.given now · d) (p.run_issue user)
  simp only [Call.given, run_accessToken, h, Call.ask_bind, Call.done_bind, hsign, Except.bind, hcreate] at hissue
  exact ⟨value, hsign, hissue⟩

theorem alone_issue_of_no_refresh (hp : p.check = .ok ()) (ha : expiry now p.accessTtl = .ok accessEnd)
    (h : expiry now p.refreshTtl = .error f) : (p.issue user).run.alone now others d s = (.error f, s) := by
  obtain ⟨value, -, hissue⟩ := given_issue_of_access hp user d ha
  rw [Call.alone_eq, hissue, run_refreshToken, h]
  rfl

/-- With an end for both tokens, a fresh pair is made and its refresh token is to be added. -/
theorem alone_issue (hp : p.check = .ok ()) (ha : expiry now p.accessTtl = .ok accessEnd)
    (hr : expiry now p.refreshTtl = .ok refreshEnd) : ∃ pair, p.Minted user now (d.values 0) pair ∧
      (p.issue user).run.alone now others d s = ((s.add pair.refresh).1.map fun _ => pair, (s.add pair.refresh).2) := by
  obtain ⟨-, -, -, haccess, hrefresh, -⟩ := check_eq_ok.1 hp
  obtain ⟨value, hsign, hissue⟩ := given_issue_of_access hp user d ha
  have hcreate (id : Uuid) (value : String) : Token.create id user value .refresh now refreshEnd =
      .ok ⟨id, user, value, .refresh, now, refreshEnd, false⟩ :=
    Token.create_eq_ok.2 ⟨lt_of_expiry hrefresh hr, rfl⟩
  refine ⟨_, minted_of_create ha hsign (Token.create_eq_ok.2 ⟨lt_of_expiry haccess ha, rfl⟩) hr
    (hcreate (d.skipId.ids 0) (d.values 0)), ?_⟩
  rw [Call.alone_eq, hissue, run_refreshToken, hr]
  simp only [Except.bind, Call.ask_bind, Call.done_bind, Call.given, hcreate]
  rfl

end Policy

end Bearer
