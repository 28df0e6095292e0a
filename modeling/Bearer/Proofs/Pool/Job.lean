import Bearer.Proofs.Call.Given
import Bearer.Proofs.Pool.Operation
import Bearer.Proofs.Pool.Serial
/-! Operations with what they will draw, at a time that stands still. These are the ways in which one of them
comes to its end when it has the store to itself. -/

namespace Bearer

/-- An operation and what the generators will give to it. -/
structure Job where
  operation : Operation
  draws : Draws

namespace Job

abbrev Outcome (j : Job) : Type := j.operation.Outcome

def call (now : Instant) (j : Job) : Call j.Outcome := j.operation.call.given now j.draws

abbrev Run (now : Instant) (p : Pool RefreshStore Outcome) (log : List (Pool.Event Job))
    (q : Pool RefreshStore Outcome) : Prop :=
  Pool.Run (call now) RefreshStore.Replies p log q

/-- The job alone with a store. -/
abbrev Ends (now : Instant) (j : Job) (s : RefreshStore) (a : j.Outcome) (s' : RefreshStore) : Prop :=
  (j.call now).Ends RefreshStore.Replies s a s'

variable {now : Instant} {d : Draws} {p : Policy} {v : String} {s s' : RefreshStore} {t : Token}

theorem call_issue (now : Instant) (p : Policy) (user : Uuid) (d : Draws) :
    call now ⟨.issue p user, d⟩ = (p.issue user).run.given now d := rfl

theorem call_rotate (now : Instant) (p : Policy) (v : String) (d : Draws) :
    call now ⟨.rotate p v, d⟩ = .ask (.find v) fun
      | .error f => .done (.error f.missAsInvalid)
      | .ok t => p.rotateFound now d v t := Policy.given_rotate now d p v

theorem call_withdraw (now : Instant) (v : String) (d : Draws) :
    call now ⟨.withdraw v, d⟩ = .ask (.find v) fun
      | .error f => .done (.error f.missAsInvalid)
      | .ok t => withdrawFound now v t := given_withdraw now d v

theorem ends_rotate_missed (h : s.get? v = none) :
    Ends now ⟨.rotate p v, d⟩ s (.error (.token .invalid)) s := by
  rw [Ends, call_rotate]
  exact .ask (.error (.notFound "refresh token")) ⟨(RefreshStore.get_eq_error.2 ⟨h, rfl⟩).symm, rfl⟩ (.done _ _)

theorem ends_rotate_found {a : Except Fault TokenPair} (h : s.get? v = some t)
    (hfound : (p.rotateFound now d v t).Ends RefreshStore.Replies s a s') :
    Ends now ⟨.rotate p v, d⟩ s a s' := by
  rw [Ends, call_rotate]
  exact .ask (.ok t) ⟨(RefreshStore.get_eq_ok.2 h).symm, rfl⟩ hfound

theorem ends_rotate_expired (h : s.get? v = some t) (he : t.isExpired now = true) :
    Ends now ⟨.rotate p v, d⟩ s (.error (.token .expired)) s :=
  ends_rotate_found h (by rw [Policy.rotateFound_of_expired he]; exact .done _ _)

theorem ends_rotate_revoked (h : s.get? v = some t) (he : t.isExpired now = false) (hr : t.revoked = true) :
    Ends now ⟨.rotate p v, d⟩ s (.error (.token .revoked)) s :=
  ends_rotate_found h (by rw [Policy.rotateFound_of_revoked he hr]; exact .done _ _)

theorem ends_rotate_usable {a : Except Fault TokenPair} (h : s.get? v = some t) (hu : t.isUsable now = true)
    (hissue : ((p.issue t.user).run.given now d).Ends RefreshStore.Replies (s.tryRevoke v).2 a s') :
    Ends now ⟨.rotate p v, d⟩ s a s' := by
  refine ends_rotate_found h ?_
  rw [Policy.rotateFound_of_usable hu]
  have hwon : (s.tryRevoke v).1 = true := RefreshStore.tryRevoke_fst.2 ⟨t, h, (Token.isUsable_eq_true.1 hu).2⟩
  exact .ask (.ok true) ⟨by rw [hwon], rfl⟩ hissue

theorem ends_withdraw_missed (h : s.get? v = none) :
    Ends now ⟨.withdraw v, d⟩ s (.error (.token .invalid)) s := by
  rw [Ends, call_withdraw]
  exact .ask (.error (.notFound "refresh token")) ⟨(RefreshStore.get_eq_error.2 ⟨h, rfl⟩).symm, rfl⟩ (.done _ _)

theorem ends_withdraw_found {a : Except Fault Unit} (h : s.get? v = some t)
    (hfound : (withdrawFound now v t).Ends RefreshStore.Replies s a s') :
    Ends now ⟨.withdraw v, d⟩ s a s' := by
  rw [Ends, call_withdraw]
  exact .ask (.ok t) ⟨(RefreshStore.get_eq_ok.2 h).symm, rfl⟩ hfound

theorem ends_withdraw_unusable (h : s.get? v = some t) (hu : t.isUsable now = false) :
    Ends now ⟨.withdraw v, d⟩ s (.ok ()) s :=
  ends_withdraw_found h (by rw [withdrawFound_of_unusable hu]; exact .done _ _)

theorem ends_withdraw_usable (h : s.get? v = some t) (hu : t.isUsable now = true) :
    Ends now ⟨.withdraw v, d⟩ s (.ok ()) (s.tryRevoke v).2 := by
  refine ends_withdraw_found h ?_
  rw [withdrawFound_of_usable hu]
  exact .ask (.ok (s.tryRevoke v).1) ⟨rfl, rfl⟩ (.done _ _)

end Job

end Bearer
