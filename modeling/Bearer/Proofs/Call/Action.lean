import Bearer.Service.Introspect
/-! Actions as the calls they are. An action stops at its first fault, so that the rest of it, `follow`,
is asked only behind a result. With these equations an action unfolds request by request. -/

namespace Bearer

namespace Action

variable {α β : Type}

/-- What comes of a result, or of the fault in its place. -/
def follow (f : α → Action β) : Except Fault α → Call (Except Fault β)
  | .ok v => (f v).run
  | .error e => .done (.error e)

@[simp] theorem follow_ok (f : α → Action β) (v : α) : follow f (.ok v) = (f v).run := rfl

@[simp] theorem follow_ofExcept (f : α → Except Fault β) (r : Except Fault α) :
    follow (fun v => ofExcept (f v)) r = .done (r.bind f) := by
  cases r <;> rfl

@[simp] theorem run_bind (a : Action α) (f : α → Action β) : (a >>= f).run = a.run.bind (follow f) := by
  simp only [ExceptT.run_bind, Call.bind_eq]
  congr 1
  funext r
  cases r <;> rfl

@[simp] theorem run_ofExcept (r : Except Fault α) : (ofExcept r).run = .done r := rfl
@[simp] theorem run_lift (c : Call α) : (ExceptT.lift c : Action α).run = c.bind fun v => .done (.ok v) := rfl

@[simp] theorem run_now : now.run = .ask .now fun t => .done (.ok t) := rfl
@[simp] theorem run_find (v : String) : (find v).run = .ask (.find v) .done := rfl
@[simp] theorem run_tryRevoke (v : String) : (tryRevoke v).run = .ask (.tryRevoke v) .done := rfl
@[simp] theorem run_add (t : Token) : (add t).run = .ask (.add t) .done := rfl
@[simp] theorem run_freshId : freshId.run = .ask .freshId fun id => .done (.ok id) := rfl
@[simp] theorem run_freshValue (n : Nat) :
    (freshValue n).run = .ask (.freshValue n) fun v => .done (.ok v) := rfl

@[simp] theorem run_mapFault (f : Fault → Fault) (a : Action α) :
    (a.mapFault f).run = a.run.bind fun r => .done (r.mapError f) := by
  unfold mapFault
  simp only [ExceptT.run_mk, Call.bind_eq, Call.pure_eq]
  congr 1
  funext r
  cases r <;> rfl

theorem run_present (v : String) :
    (present v).run = .ask (.find v) fun
      | .error f => .done (.error f.missAsInvalid)
      | .ok t => .done (.ok t) := by
  simp only [present, run_mapFault, run_find, Call.ask_bind, Call.done_bind, Call.ask.injEq, heq_eq_eq,
    true_and]
  funext r
  cases r <;> rfl

end Action

namespace Policy

theorem run_accessToken (p : Policy) (user : Uuid) (now : Instant) :
    (p.accessToken user now).run =
      match expiry now p.accessTtl with
      | .error f => .done (.error f)
      | .ok expiresAt => .ask .freshId fun id =>
        .done ((p.sign ⟨user, p.issuer, now, expiresAt⟩ (some id)).bind fun value =>
          Token.create id user value .access now expiresAt) := by
  simp only [accessToken, Action.run_bind, Action.run_ofExcept, Call.done_bind]
  cases expiry now p.accessTtl with
  | error f => rfl
  | ok expiresAt =>
    simp only [Action.follow_ok, Action.run_bind, Action.run_freshId, Action.run_ofExcept, Call.ask_bind,
      Call.done_bind, Action.follow_ofExcept]

theorem run_refreshToken (p : Policy) (user : Uuid) (now : Instant) :
    (p.refreshToken user now).run =
      .ask .freshId fun id => .ask (.freshValue p.refreshBytes) fun value =>
        .done ((expiry now p.refreshTtl).bind fun expiresAt =>
          Token.create id user value .refresh now expiresAt) := by
  simp only [refreshToken, Action.run_bind, Action.run_freshId, Action.run_freshValue, Action.run_ofExcept,
    Call.ask_bind, Call.done_bind, Action.follow_ok, Action.follow_ofExcept]

theorem run_issue (p : Policy) (user : Uuid) :
    (p.issue user).run =
      .ask .now fun now => (p.accessToken user now).run.bind fun
        | .error f => .done (.error f)
        | .ok access => (p.refreshToken user now).run.bind fun
          | .error f => .done (.error f)
          | .ok refresh => .ask (.add refresh) fun r => .done (r.map fun _ => ⟨access, refresh⟩) := by
  simp only [issue, Action.run_bind, Action.run_now, Call.ask_bind, Call.done_bind, Action.follow_ok,
    Call.ask.injEq, heq_eq_eq, true_and]
  funext now
  congr 1
  funext access
  cases access with
  | error f => rfl
  | ok access =>
    simp only [Action.follow_ok, Action.run_bind]
    congr 1
    funext refresh
    cases refresh with
    | error f => rfl
    | ok refresh =>
      simp only [Action.follow_ok, Action.run_bind, Action.run_add, Call.ask_bind, Call.done_bind,
        Call.ask.injEq, heq_eq_eq, true_and]
      funext r
      cases r <;> rfl

theorem run_rotate (p : Policy) (v : String) :
    (p.rotate v).run = .ask (.find v) fun
      | .error f => .done (.error f.missAsInvalid)
      | .ok t => .ask .now fun now =>
        if t.isExpired now then .done (.error (.token .expired))
        else if t.revoked then .done (.error (.token .revoked))
        else .ask (.tryRevoke v) fun
          | .error f => .done (.error f)
          | .ok false => .done (.error (.token .revoked))
          | .ok true => (p.issue t.user).run := by
  simp only [rotate, Action.run_bind, Action.run_present, Call.ask_bind, Call.ask.injEq, heq_eq_eq, true_and]
  funext r
  cases r with
  | error f => rfl
  | ok t =>
    simp only [Call.done_bind, Action.follow_ok, Action.run_bind, Action.run_now, Call.ask_bind,
      Call.ask.injEq, heq_eq_eq, true_and]
    funext now
    split
    · rfl
    · split
      · rfl
      · simp only [Action.run_bind, Action.run_tryRevoke, Call.ask_bind, Call.done_bind, Call.ask.injEq,
          heq_eq_eq, true_and]
        funext won
        rcases won with f | _ | _ <;> rfl

theorem run_verify (p : Policy) (token : String) :
    (p.verify token).run =
      match p.claims? token with
      | none => .done (.error (.token .invalid))
      | some c => .ask .now fun now =>
        .done (if c.expiresAt < now then .error (.token .expired) else .ok c) := by
  unfold verify
  cases p.claims? token with
  | none => rfl
  | some c =>
    simp only [Action.run_bind, Action.run_now, Call.ask_bind, Call.done_bind, Action.follow_ok,
      Call.ask.injEq, heq_eq_eq, true_and]
    funext now
    split <;> rfl

end Policy

theorem run_withdraw (v : String) :
    (withdraw v).run = .ask (.find v) fun
      | .error f => .done (.error f.missAsInvalid)
      | .ok t => .ask .now fun now =>
        if t.isExpired now || t.revoked then .done (.ok ())
        else .ask (.tryRevoke v) fun
          | .error f => .done (.error f)
          | .ok _ => .done (.ok ()) := by
  simp only [withdraw, Action.run_bind, Action.run_present, Call.ask_bind, Call.ask.injEq, heq_eq_eq, true_and]
  funext r
  cases r with
  | error f => rfl
  | ok t =>
    simp only [Call.done_bind, Action.follow_ok, Action.run_bind, Action.run_now, Call.ask_bind,
      Call.ask.injEq, heq_eq_eq, true_and]
    funext now
    split
    · rfl
    · simp only [Action.run_bind, Action.run_tryRevoke, Call.ask_bind, Call.done_bind, Call.ask.injEq,
        heq_eq_eq, true_and]
      funext won
      cases won <;> rfl

namespace Service

theorem run_refresh (svc : Service) (v : String) :
    (svc.refresh v).run = (svc.policy.rotate v).run.bind fun r => .done (r.map TokenPair.grant) := by
  simp only [refresh, Action.run_bind]
  congr 1
  funext r
  cases r <;> rfl

theorem run_validate (svc : Service) (token : String) :
    (svc.validate token).run = (svc.policy.verify token).run.bind fun r => .done (r.map Claims.subject) := by
  simp only [validate, Action.run_bind]
  congr 1
  funext r
  cases r <;> rfl

theorem isValid_eq (svc : Service) (token : String) :
    svc.isValid token = (svc.validate token).run.bind fun r => .done r.toBool := by
  simp only [isValid, Call.bind_eq]
  congr 1
  funext r
  cases r <;> rfl

/-- How a failed lookup of the user of a genuine token is reported. -/
def unknown (user : Uuid) : Fault → Fault
  | .notFound _ => .repository ("decoded user_id " ++ user.text ++ " is not found")
  | f => f

theorem run_introspect (svc : Service) (token : String) :
    (svc.introspect token).run = (svc.policy.verify token).run.bind fun
      | .error f => .done (.error f)
      | .ok c => (svc.lookup c.subject).run.bind fun r => .done (r.mapError (unknown c.subject)) := by
  simp only [introspect, Action.run_bind]
  congr 1
  funext r
  cases r with
  | error f => rfl
  | ok c =>
    simp only [Action.follow_ok, Action.run_mapFault]
    rfl

end Service

end Bearer
