import Bearer.Proofs.Service.InMemory
import Bearer.Proofs.Service.Requests
/-! What the two tokens of a pair are made of: the access token is signed for the time at which it was asked for, and
the refresh token has the value that the generator gives out next. -/

namespace Bearer

namespace Surroundings

variable {α β : Type} {s s' : Surroundings}

/-- An action in two parts has a result only if both have one. -/
theorem ok_of_bind {a : Action α} {f : α → Action β} {v : β} (h : s.run (a >>= f).run = (.ok v, s')) :
    ∃ x s₁, s.run a.run = (.ok x, s₁) ∧ s₁.run (f x).run = (.ok v, s') := by
  rw [Action.run_bind, run_bind] at h
  cases ha : s.run a.run with
  | mk r s₁ =>
    rw [ha] at h
    cases r with
    | error e => cases h
    | ok x => exact ⟨x, s₁, rfl, h⟩

theorem ok_of_ofExcept {r : Except Fault α} {x : α} (h : s.run (Action.ofExcept r).run = (.ok x, s')) :
    r = .ok x ∧ s' = s := by
  rw [Action.run_ofExcept, run_done] at h
  cases h
  exact ⟨rfl, rfl⟩

/-- Looking a value up and revoking it leave clock and generator alone. -/
theorem answer_find (s : Surroundings) (value : String) :
    (s.answer (.find value)).2.now = s.now ∧ (s.answer (.find value)).2.values = s.values := by
  simp only [answer, reply, through]
  split <;> exact ⟨rfl, rfl⟩

theorem answer_tryRevoke (s : Surroundings) (value : String) :
    (s.answer (.tryRevoke value)).2.now = s.now ∧ (s.answer (.tryRevoke value)).2.values = s.values := by
  simp only [answer, reply, tryRevoke]
  split <;> exact ⟨rfl, rfl⟩

theorem values_of_freshId {id : Uuid} (h : s.run Action.freshId.run = (.ok id, s')) : s'.values = s.values := by
  cases h
  rfl

theorem eq_of_freshValue {n : Nat} {v w : String} {rest : List String} (hvalues : s.values = v :: rest)
    (h : s.run (Action.freshValue n).run = (.ok w, s')) : w = v := by
  rw [Action.run_freshValue, run_ask, run_done] at h
  have hw := congrArg Prod.fst h
  simp only [answer, reply, freshValue, hvalues, Except.ok.injEq] at hw
  exact hw.symm

end Surroundings

open Surroundings

namespace Policy

variable {p : Policy} {s s' : Surroundings} {user : Uuid}

theorem value_of_accessToken {now : Instant} {t : Token} (h : s.run (p.accessToken user now).run = (.ok t, s')) :
    (∃ id expiresAt, expiry now p.accessTtl = .ok expiresAt ∧
      p.sign ⟨user, p.issuer, now, expiresAt⟩ (some id) = .ok t.value) ∧ s'.values = s.values := by
  obtain ⟨expiresAt, s₁, hexpiry, h₁⟩ := ok_of_bind h
  obtain ⟨id, s₂, hid, h₂⟩ := ok_of_bind h₁
  obtain ⟨value, s₃, hsign, h₃⟩ := ok_of_bind h₂
  obtain ⟨hexpires, hs₁⟩ := ok_of_ofExcept hexpiry
  obtain ⟨hsigned, hs₃⟩ := ok_of_ofExcept hsign
  obtain ⟨hcreate, hs'⟩ := ok_of_ofExcept h₃
  refine ⟨⟨id, expiresAt, hexpires, by rw [hsigned, (Token.create_eq_ok.1 hcreate).2]⟩, ?_⟩
  rw [hs', hs₃, ← hs₁]
  exact values_of_freshId hid

theorem value_of_refreshToken {now : Instant} {t : Token} {v : String} {rest : List String}
    (hvalues : s.values = v :: rest) (h : s.run (p.refreshToken user now).run = (.ok t, s')) : t.value = v := by
  obtain ⟨id, s₁, hid, h₁⟩ := ok_of_bind h
  obtain ⟨value, s₂, hvalue, h₂⟩ := ok_of_bind h₁
  obtain ⟨expiresAt, s₃, -, h₃⟩ := ok_of_bind h₂
  rw [(Token.create_eq_ok.1 (ok_of_ofExcept h₃).1).2]
  exact eq_of_freshValue ((values_of_freshId hid).trans hvalues) hvalue

/-- The values of a pair: one is signed for a time, the other has been drawn. -/
structure Makes (p : Policy) (now : Instant) (drawn access refresh : String) : Prop where
  signed : ∃ user id expiresAt, expiry now p.accessTtl = .ok expiresAt ∧
    p.sign ⟨user, p.issuer, now, expiresAt⟩ (some id) = .ok access
  drawn : refresh = drawn

section

variable {v : String} {rest : List String} {pair : TokenPair}

theorem makes_of_issue (hvalues : s.values = v :: rest) (h : s.run (p.issue user).run = (.ok pair, s')) :
    p.Makes s.now v pair.access.value pair.refresh.value := by
  obtain ⟨now, s₁, hnow, h₁⟩ := ok_of_bind h
  obtain ⟨access, s₂, haccess, h₂⟩ := ok_of_bind h₁
  obtain ⟨refresh, s₃, hrefresh, h₃⟩ := ok_of_bind h₂
  obtain ⟨_, s₄, -, h₄⟩ := ok_of_bind h₃
  cases hnow
  cases h₄
  obtain ⟨⟨id, expiresAt, hexpires, hsign⟩, hstate⟩ := value_of_accessToken haccess
  exact ⟨⟨user, id, expiresAt, hexpires, hsign⟩, value_of_refreshToken (hstate.trans hvalues) hrefresh⟩

/-- An exchange reaches its issue at the same time, with nothing drawn before. -/
theorem makes_of_rotate {value : String} (hvalues : s.values = v :: rest)
    (h : s.run (p.rotate value).run = (.ok pair, s')) : p.Makes s.now v pair.access.value pair.refresh.value := by
  obtain ⟨hnow₁, hvalues₁⟩ := s.answer_find value
  rw [run_rotate, run_ask] at h
  generalize s.answer (.find value) = found at *
  obtain ⟨_ | t, s₁⟩ := found
  · cases h
  · have hanswer : s₁.answer .now = (s₁.now, { s₁ with asked := s₁.asked ++ [.now] }) := rfl
    dsimp only at h
    rw [run_ask, hanswer] at h
    generalize hs₂ : ({ s₁ with asked := s₁.asked ++ [.now] } : Surroundings) = s₂ at h
    have hnow₂ : s₂.now = s₁.now := by rw [← hs₂]
    have hvalues₂ : s₂.values = s₁.values := by rw [← hs₂]
    dsimp only at h hnow₁ hvalues₁
    split at h
    · cases h
    split at h
    · cases h
    obtain ⟨hnow₃, hvalues₃⟩ := s₂.answer_tryRevoke value
    rw [run_ask] at h
    generalize s₂.answer (.tryRevoke value) = won at *
    obtain ⟨_ | _ | _, s₃⟩ := won
    · cases h
    · cases h
    · dsimp only at h hnow₃ hvalues₃
      have hmakes := makes_of_issue (hvalues₃.trans (hvalues₂.trans (hvalues₁.trans hvalues))) h
      rw [hnow₃, hnow₂, hnow₁] at hmakes
      exact hmakes

end

end Policy

namespace Service

variable {svc : Service} {s s' : Surroundings} {value v : String} {rest : List String} {g : Grant}

theorem makes_of_issue (hvalues : s.values = v :: rest) (h : s.run (svc.issue value).run = (.ok g, s')) :
    svc.policy.Makes s.now v g.access g.refresh := by
  unfold issue at h
  split at h
  · cases h
  · obtain ⟨pair, s₁, hpair, h₁⟩ := ok_of_bind h
    cases h₁
    exact Policy.makes_of_issue hvalues hpair

theorem makes_of_refresh (hvalues : s.values = v :: rest) (h : s.run (svc.refresh value).run = (.ok g, s')) :
    svc.policy.Makes s.now v g.access g.refresh := by
  obtain ⟨pair, s₁, hpair, h₁⟩ := ok_of_bind h
  cases h₁
  exact Policy.makes_of_rotate hvalues hpair

end Service

end Bearer
