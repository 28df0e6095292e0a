import Bearer.Proofs.Cache.Lookup
import Bearer.Proofs.Service.InMemory
import Bearer.Proofs.Service.Requests
/-! Which faults the operations of a service in memory end with. What is not found is told as an invalid token or
as a fault of the data, and a policy in order makes no token that has ended when it is issued. -/

namespace Bearer

namespace Policy

/-- What a policy in order is like. -/
theorem check_eq_ok {p : Policy} : p.check = .ok () ↔
    p.secret ≠ "" ∧ p.algorithm.hash? ≠ none ∧ p.issuer ≠ "" ∧ ¬p.accessTtl ≤ Duration.zero ∧
      ¬p.refreshTtl ≤ Duration.zero ∧ ¬(longest < p.accessTtl ∨ longest < p.refreshTtl) ∧
      fewestBytes ≤ p.refreshBytes := by
  have hcheck : p.check = .ok () ↔ p.defect? = none := by
    unfold check
    cases p.defect? <;> simp
  have hstep {b : Prop} [Decidable b] {d : Defect} {rest : Option Defect} :
      (if b then some d else rest) = none ↔ ¬b ∧ rest = none := by
    split <;> simp [*]
  simp only [hcheck, defect?, hstep, Nat.not_lt, and_true, ne_eq]

/-- What ends after a lifetime that is positive ends after it is issued. -/
theorem lt_of_expiry {now expiresAt : Instant} {ttl : Duration} (hpos : ¬ttl ≤ Duration.zero)
    (h : expiry now ttl = .ok expiresAt) : now < expiresAt := by
  have hnanos := Instant.add?_eq_some.1 (add?_of_expiry h)
  have hpos : 0 < ttl.nanos := Int.not_le.1 hpos
  rw [Instant.lt_def]
  omega

end Policy

/-- A fault of the token presented, or of the service itself. -/
def Fault.IsOutcome : Fault → Prop
  | token _ => True
  | repository _ => True
  | internal _ => True
  | _ => False

namespace Action

variable {α β : Type}

/-- A result, or such a fault. -/
def Told : Except Fault α → Prop
  | .ok _ => True
  | .error f => f.IsOutcome

theorem Told.bind {r : Except Fault α} {f : α → Except Fault β} (h : Told r) (hf : ∀ v, r = .ok v → Told (f v)) :
    Told (r.bind f) := by
  cases r with
  | error e => exact h
  | ok v => exact hf v rfl

/-- Answered plainly, the action ends with one of these. -/
def Tells (a : Action α) : Prop := a.run.Behaves Request.Plain (fun _ => True) Told

theorem Tells.bind {a : Action α} {f : α → Action β} (h : a.Tells) (hf : ∀ v, (f v).Tells) : (a >>= f).Tells := by
  rw [Tells, run_bind, Call.behaves_bind]
  refine h.mono fun r hr => ?_
  cases r with
  | error e => exact hr
  | ok v => exact hf v

theorem tells_pure (v : α) : (pure v : Action α).Tells := trivial

theorem tells_now : now.Tells := ⟨trivial, fun _ _ => trivial⟩

theorem tells_add (t : Token) : (add t).Tells := by
  refine ⟨trivial, fun a ha => ?_⟩
  cases a with
  | ok _ => trivial
  | error f =>
    obtain ⟨message, rfl⟩ := ha
    trivial

end Action

open Bearer.Action

namespace Policy

variable {p : Policy}

theorem told_expiry (now : Instant) (ttl : Duration) : Told (expiry now ttl) := by
  unfold expiry
  split <;> trivial

theorem told_sign (c : Claims) (id : Option Uuid) : Told (p.sign c id) := by
  unfold sign
  split <;> trivial

theorem told_create {now expiresAt : Instant} {ttl : Duration} (hpos : ¬ttl ≤ Duration.zero)
    (h : expiry now ttl = .ok expiresAt) (id user : Uuid) (value : String) (kind : TokenKind) :
    Told (Token.create id user value kind now expiresAt) := by
  rw [Token.create_eq_ok.2 ⟨lt_of_expiry hpos h, rfl⟩]
  trivial

theorem tells_accessToken (hp : p.check = .ok ()) (user : Uuid) (now : Instant) : (p.accessToken user now).Tells := by
  obtain ⟨-, -, -, hpos, -⟩ := check_eq_ok.1 hp
  have hexpiry := told_expiry now p.accessTtl
  rw [Tells, run_accessToken]
  cases h : expiry now p.accessTtl with
  | error f =>
    rw [h] at hexpiry
    exact hexpiry
  | ok expiresAt => exact ⟨trivial, fun id _ => (told_sign _ _).bind fun value _ => told_create hpos h id user value _⟩

theorem tells_refreshToken (hp : p.check = .ok ()) (user : Uuid) (now : Instant) :
    (p.refreshToken user now).Tells := by
  obtain ⟨-, -, -, -, hpos, -⟩ := check_eq_ok.1 hp
  rw [Tells, run_refreshToken]
  exact ⟨trivial, fun id _ => ⟨trivial, fun value _ =>
    (told_expiry now p.refreshTtl).bind fun expiresAt h => told_create hpos h id user value _⟩⟩

theorem tells_issue (hp : p.check = .ok ()) (user : Uuid) : (p.issue user).Tells :=
  tells_now.bind fun now => (tells_accessToken hp user now).bind fun _ =>
    (tells_refreshToken hp user now).bind fun refresh => (tells_add refresh).bind fun _ => tells_pure _

theorem tells_rotate (hp : p.check = .ok ()) (v : String) : (p.rotate v).Tells := by
  rw [Tells, run_rotate]
  refine ⟨trivial, fun a ha => ?_⟩
  cases a with
  | error f =>
    obtain rfl := ha
    trivial
  | ok t =>
    refine ⟨trivial, fun now _ => ?_⟩
    dsimp only
    split
    · trivial
    · split
      · trivial
      · refine ⟨trivial, fun won hwon => ?_⟩
        rcases won with f | _ | _
        · exact hwon.elim
        · trivial
        · exact tells_issue hp t.user

theorem tells_verify (token : String) : (p.verify token).Tells := by
  rw [Tells, run_verify]
  cases p.claims? token with
  | none => trivial
  | some c =>
    refine ⟨trivial, fun now _ => ?_⟩
    dsimp only
    split <;> trivial

end Policy

theorem tells_withdraw (v : String) : (withdraw v).Tells := by
  rw [Tells, run_withdraw]
  refine ⟨trivial, fun a ha => ?_⟩
  cases a with
  | error f =>
    obtain rfl := ha
    trivial
  | ok t =>
    refine ⟨trivial, fun now _ => ?_⟩
    dsimp only
    split
    · trivial
    · refine ⟨trivial, fun won hwon => ?_⟩
      cases won with
      | error f => exact hwon.elim
      | ok _ => trivial

namespace Service

variable {svc : Service}

/-- A lookup fails only where there is no such user. -/
theorem behaves_lookup (svc : Service) (user : Uuid) :
    (svc.lookup user).run.Behaves Request.Plain (fun _ => True) fun r =>
      ∀ f, r = .error f → ∃ resource, f = .notFound resource := by
  unfold lookup
  cases svc.cache with
  | none => exact ⟨trivial, fun a ha f hf => by cases hf; exact ha⟩
  | some c =>
    dsimp only
    rw [TypedCache.run_lookup]
    refine ⟨trivial, fun r _ => ?_⟩
    dsimp only
    cases c.hit? r with
    | some d => exact fun f hf => by cases hf
    | none =>
      refine ⟨trivial, fun a ha => ?_⟩
      cases a with
      | error f => exact fun g hg => by cases hg; exact ha
      | ok d =>
        dsimp only
        cases c.codec.encode d with
        | none => exact fun f hf => by cases hf
        | some text => exact ⟨trivial, fun _ _ f hf => by cases hf⟩

theorem tells_introspect (svc : Service) (token : String) : (svc.introspect token).Tells := by
  refine (Policy.tells_verify token).bind fun c => ?_
  rw [Tells, run_mapFault, Call.behaves_bind]
  refine (svc.behaves_lookup c.subject).mono fun r hr => ?_
  cases r with
  | ok d => trivial
  | error f =>
    obtain ⟨resource, rfl⟩ := hr f rfl
    trivial

/-- Of a service with a policy in order every operation does, unless it is to issue for what names no user. -/
theorem tells_action (hp : svc.policy.check = .ok ()) {op : Operation}
    (hop : ∀ user, op = .issue user → ∃ id, Uuid.parse? user = some id) : (svc.action op).Tells := by
  cases op with
  | issue user =>
    obtain ⟨id, hid⟩ := hop user rfl
    simp only [action, issue, hid]
    exact (Policy.tells_issue hp id).bind fun _ => tells_pure _
  | refresh value => exact (Policy.tells_rotate hp value).bind fun _ => tells_pure _
  | revoke value => exact tells_withdraw value
  | introspect token => exact tells_introspect svc token

end Service

end Bearer
