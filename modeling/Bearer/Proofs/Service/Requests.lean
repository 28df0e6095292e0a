import Bearer.Proofs.Call.Does
/-! What a service may ask for in the course of each of its operations, whatever it is answered. It stores
only refresh tokens of the policy's lifetime, and it tries to revoke no value but the one that was presented
to it. -/

namespace Bearer

/-- What an entry of the store is like that a service with this policy has made. -/
structure Policy.Stored (p : Policy) (key : String) (t : Token) : Prop where
  value : t.value = key
  kind : t.kind = .refresh
  expires : t.issuedAt.add? p.refreshTtl = some t.expiresAt
  lives : t.issuedAt < t.expiresAt

theorem Policy.Stored.revoke {p : Policy} {key : String} {t : Token} (h : p.Stored key t) :
    p.Stored key t.revoke :=
  ⟨h.value, h.kind, h.expires, h.lives⟩

/-- The requests that are allowed to an operation to which a value was presented, or none. -/
def Policy.MayAsk (p : Policy) (presented : Option String) : Request → Prop
  | .add t => p.Stored t.value t
  | .tryRevoke v => presented = some v
  | _ => True

namespace Service

inductive Operation
  | issue (user : String)
  | refresh (value : String)
  | revoke (value : String)
  | introspect (token : String)

namespace Operation

abbrev Result : Operation → Type
  | issue _ => Grant
  | refresh _ => Grant
  | revoke _ => Unit
  | introspect _ => Descriptor

abbrev Outcome (op : Operation) : Type := Except Fault op.Result

/-- The refresh value that was presented. -/
def presented : Operation → Option String
  | refresh v => some v
  | revoke v => some v
  | _ => none

theorem presented_eq_some {op : Operation} {v : String} :
    op.presented = some v ↔ op = .refresh v ∨ op = .revoke v := by
  cases op <;> simp [presented]

end Operation

def action (s : Service) : (op : Operation) → Action op.Result
  | .issue user => s.issue user
  | .refresh value => s.refresh value
  | .revoke value => s.revoke value
  | .introspect token => s.introspect token

def perform (s : Service) (op : Operation) : Call op.Outcome := (s.action op).run

end Service

section Does

variable {p : Policy} {presented : Option String}

/-- A refresh token is made for the store from the start. -/
theorem Token.stored_of_create {id user : Uuid} {value : String} {now expiresAt : Instant} {t : Token}
    (hadd : now.add? p.refreshTtl = some expiresAt)
    (h : Token.create id user value .refresh now expiresAt = .ok t) : p.Stored t.value t := by
  obtain ⟨hlives, rfl⟩ := Token.create_eq_ok.1 h
  exact ⟨rfl, rfl, hadd, hlives⟩

theorem Policy.add?_of_expiry {now expiresAt : Instant} {ttl : Duration} (h : expiry now ttl = .ok expiresAt) :
    now.add? ttl = some expiresAt := by
  unfold expiry at h
  split at h
  · next hadd => cases h; exact hadd
  · cases h

theorem Policy.expiry_of_add? {now expiresAt : Instant} {ttl : Duration} (h : now.add? ttl = some expiresAt) :
    expiry now ttl = .ok expiresAt := by
  rw [expiry, h]

theorem Policy.expiry_of_overflow {now : Instant} {ttl : Duration} (h : now.add? ttl = none) :
    expiry now ttl =
      .error (.internal ("Token expiry overflows the calendar: " ++ now.text ++ " + " ++ ttl.text)) := by
  rw [expiry, h]

theorem Policy.does_issue (user : Uuid) :
    Action.Does (p.MayAsk presented) (fun _ => True) (p.issue user) := by
  simp only [issue, accessToken, refreshToken, Action.does_bind, Action.does_now, Action.does_ofExcept,
    Action.does_freshId, Action.does_freshValue, Action.does_add, Action.does_pure]
  refine ⟨trivial, fun now _ _ => ⟨trivial, fun _ _ _ _ _ => ⟨trivial, fun id => ⟨trivial, ?_⟩⟩⟩⟩
  intro value expiresAt hexpiry t ht
  exact ⟨Token.stored_of_create (add?_of_expiry hexpiry) ht, fun _ => trivial⟩

theorem Policy.does_rotate (v : String) :
    Action.Does (p.MayAsk (some v)) (fun _ => True) (p.rotate v) := by
  simp [rotate, Action.present, MayAsk, does_issue]

theorem does_withdraw (v : String) : Action.Does (p.MayAsk (some v)) (fun _ => True) (withdraw v) := by
  simp [withdraw, Action.present, Policy.MayAsk]

end Does

/-- The requests of those who look something up. They leave the store of refresh tokens alone. -/
def Request.LooksUp : Request → Prop
  | .now => True
  | .resolve _ => True
  | .fetch _ => True
  | .remember .. => True
  | _ => False

theorem Policy.mayAsk_of_looksUp {p : Policy} {presented : Option String} {r : Request} (h : r.LooksUp) :
    p.MayAsk presented r := by
  cases r <;> simp_all [Request.LooksUp, Policy.MayAsk]

theorem Policy.does_verify (p : Policy) (token : String) :
    Action.Does Request.LooksUp (fun _ => True) (p.verify token) := by
  unfold verify
  cases p.claims? token <;> simp [Request.LooksUp]

theorem TypedCache.does_get (c : TypedCache Descriptor) (key : String) :
    (c.get key).Does Request.LooksUp fun _ => True := by
  have hget : Action.Does Request.LooksUp (fun _ => True) (c.getOrFail key) := by
    simp only [getOrFail, Action.does_bind, Action.does_fetch]
    refine ⟨trivial, fun text => ?_⟩
    cases text with
    | none => simp
    | some text => cases h : c.codec.decode text <;> simp [h]
  simp only [get, Call.bind_eq, Call.does_bind]
  refine (Action.does_true.1 hget).mono fun r _ => ?_
  cases r <;> trivial

theorem TypedCache.does_set (c : TypedCache Descriptor) (key : String) (d : Descriptor) :
    (c.set key d).Does Request.LooksUp fun _ => True := by
  have hset : Action.Does Request.LooksUp (fun _ => True) (c.setOrFail key d) := by
    unfold setOrFail
    cases c.codec.encode d <;> simp [Request.LooksUp]
  simp only [set, Call.bind_eq, Call.does_bind]
  exact (Action.does_true.1 hset).mono fun _ _ => trivial

theorem Service.does_lookup (s : Service) (user : Uuid) :
    Action.Does Request.LooksUp (fun _ => True) (s.lookup user) := by
  unfold lookup
  cases s.cache with
  | none => simp [Request.LooksUp]
  | some c =>
    simp only [TypedCache.lookup, Action.does_bind, Action.does_lift]
    refine (c.does_get _).mono fun found _ => ?_
    cases found with
    | some d => trivial
    | none =>
      simp only [Action.does_bind, Action.does_resolve, Action.does_lift, Action.does_pure]
      exact ⟨trivial, fun d => (c.does_set _ d).mono fun _ _ => trivial⟩

theorem Service.does_introspect (s : Service) (token : String) :
    (s.introspect token).run.Does Request.LooksUp fun _ => True := by
  rw [← Action.does_true]
  simp only [introspect, Action.does_bind, Action.does_mapFault]
  exact (s.policy.does_verify token).mono fun c _ => s.does_lookup c.subject

/-- Every operation of a service keeps to what is allowed to it. -/
theorem Service.does_perform (s : Service) (op : Operation) :
    (s.perform op).Does (s.policy.MayAsk op.presented) fun _ => True := by
  cases op with
  | issue user =>
    rw [perform, ← Action.does_true]
    simp only [action, issue]
    cases Uuid.parse? user with
    | none => simp
    | some id => simpa using Policy.does_issue id
  | refresh value =>
    rw [perform, ← Action.does_true]
    simp only [action, refresh, Action.does_bind, Action.does_pure]
    exact Policy.does_rotate value
  | revoke value => exact Action.does_true.1 (does_withdraw value)
  | introspect token => exact (s.does_introspect token).weaken fun _ => Policy.mayAsk_of_looksUp

end Bearer
