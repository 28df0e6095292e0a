import Bearer.Proofs.Call.Action
/-! Calls to which the time and all that they will draw is given beforehand, so that they ask of the store
alone. What is left of each operation then is a handful of store requests. -/

namespace Bearer

/-- What the generators will give to one call, in the order in which it draws. -/
structure Draws where
  ids : Nat → Uuid
  values : Nat → String

namespace Draws

def skipId (d : Draws) : Draws := { d with ids := fun n => d.ids (n + 1) }
def skipValue (d : Draws) : Draws := { d with values := fun n => d.values (n + 1) }

end Draws

namespace Call

variable {α : Type}

/-- The call with every question for the time or for something fresh answered already. -/
def given (now : Instant) : Call α → Draws → Call α
  | done a, _ => done a
  | ask .now next, d => (next now).given now d
  | ask .freshId next, d => (next (d.ids 0)).given now d.skipId
  | ask (.freshValue _) next, d => (next (d.values 0)).given now d.skipValue
  | ask r next, d => ask r fun a => (next a).given now d

/-- Surroundings in which the clock stands still and the generators give these draws. -/
def drawing {σ : Type} (now : Instant) (answer : (r : Request) → σ → r.Answer × σ) :
    (r : Request) → σ × Draws → r.Answer × (σ × Draws)
  | .now, (s, d) => (now, s, d)
  | .freshId, (s, d) => (d.ids 0, s, d.skipId)
  | .freshValue _, (s, d) => (d.values 0, s, d.skipValue)
  | r, (s, d) => ((answer r s).1, (answer r s).2, d)

/-- The call comes to the same and leaves the same as when it reads that clock and draws on its way. -/
theorem run_given {σ : Type} (now : Instant) (answer : (r : Request) → σ → r.Answer × σ) (c : Call α) (s : σ)
    (d : Draws) : (c.given now d).run answer s =
      ((c.run (drawing now answer) (s, d)).1, (c.run (drawing now answer) (s, d)).2.1) := by
  induction c generalizing s d with
  | done a => rfl
  | ask r next ih => cases r <;> simp only [given, run, drawing, ih]

end Call

variable (now : Instant) (d : Draws)

/-- What is left of an exchange that has found its token in time and not revoked. -/
def Policy.redeem (p : Policy) (v : String) (user : Uuid) : Call (Except Fault TokenPair) :=
  .ask (.tryRevoke v) fun
    | .error f => .done (.error f)
    | .ok false => .done (.error (.token .revoked))
    | .ok true => (p.issue user).run.given now d

/-- What is left of an exchange that has found a token. -/
def Policy.rotateFound (p : Policy) (v : String) (t : Token) : Call (Except Fault TokenPair) :=
  if t.isExpired now then .done (.error (.token .expired))
  else if t.revoked then .done (.error (.token .revoked))
  else p.redeem now d v t.user

theorem Policy.given_rotate (p : Policy) (v : String) :
    (p.rotate v).run.given now d = .ask (.find v) fun
      | .error f => .done (.error f.missAsInvalid)
      | .ok t => p.rotateFound now d v t := by
  rw [run_rotate]
  simp only [Call.given, Call.ask.injEq, heq_eq_eq, true_and]
  funext r
  cases r with
  | error f => rfl
  | ok t =>
    simp only [Call.given, rotateFound]
    split
    · rfl
    · split
      · rfl
      · simp only [Call.given, redeem, Call.ask.injEq, heq_eq_eq, true_and]
        funext won
        rcases won with f | _ | _ <;> rfl

section Found

variable {now d} {t : Token}

theorem Policy.rotateFound_of_expired {p : Policy} {v : String} (he : t.isExpired now = true) :
    p.rotateFound now d v t = .done (.error (.token .expired)) := by
  rw [rotateFound, if_pos he]

theorem Policy.rotateFound_of_revoked {p : Policy} {v : String} (he : t.isExpired now = false)
    (hr : t.revoked = true) : p.rotateFound now d v t = .done (.error (.token .revoked)) := by
  simp [rotateFound, he, hr]

theorem Policy.rotateFound_of_usable {p : Policy} {v : String} (h : t.isUsable now = true) :
    p.rotateFound now d v t = p.redeem now d v t.user := by
  obtain ⟨he, hr⟩ := Token.isUsable_eq_true.1 h
  simp [rotateFound, he, hr]

end Found

/-- What is left of a withdrawal that has found its token usable. -/
def retire (v : String) : Call (Except Fault Unit) :=
  .ask (.tryRevoke v) fun
    | .error f => .done (.error f)
    | .ok _ => .done (.ok ())

/-- What is left of a withdrawal that has found a token. -/
def withdrawFound (v : String) (t : Token) : Call (Except Fault Unit) :=
  if t.isExpired now || t.revoked then .done (.ok ()) else retire v

theorem withdrawFound_of_unusable {now : Instant} {v : String} {t : Token} (h : t.isUsable now = false) :
    withdrawFound now v t = .done (.ok ()) := by
  rw [withdrawFound, if_pos (by simpa using Token.isUsable_eq_false.1 h)]

theorem withdrawFound_of_usable {now : Instant} {v : String} {t : Token} (h : t.isUsable now = true) :
    withdrawFound now v t = retire v := by
  obtain ⟨he, hr⟩ := Token.isUsable_eq_true.1 h
  simp [withdrawFound, he, hr]

theorem given_withdraw (v : String) :
    (withdraw v).run.given now d = .ask (.find v) fun
      | .error f => .done (.error f.missAsInvalid)
      | .ok t => withdrawFound now v t := by
  rw [run_withdraw]
  simp only [Call.given, Call.ask.injEq, heq_eq_eq, true_and]
  funext r
  cases r with
  | error f => rfl
  | ok t =>
    simp only [Call.given, withdrawFound]
    split
    · rfl
    · simp only [Call.given, retire, Call.ask.injEq, heq_eq_eq, true_and]
      funext won
      cases won <;> rfl

/-- An issue fails before it asks the store, or asks it for nothing but to add one token. -/
theorem Policy.given_issue (p : Policy) (user : Uuid) :
    (∃ f, (p.issue user).run.given now d = .done (.error f)) ∨
      ∃ access refresh, (p.issue user).run.given now d =
        .ask (.add refresh) fun r => .done (r.map fun _ => ⟨access, refresh⟩) := by
  rw [run_issue]
  simp only [Call.given, run_accessToken, run_refreshToken]
  cases expiry now p.accessTtl with
  | error f => exact Or.inl ⟨f, rfl⟩
  | ok accessEnd =>
    simp only [Call.ask_bind, Call.done_bind, Call.given]
    split
    · next f _ => exact Or.inl ⟨f, rfl⟩
    · next access _ =>
      simp only [Call.given]
      split
      · next f _ => exact Or.inl ⟨f, rfl⟩
      · next refresh _ => exact Or.inr ⟨access, refresh, rfl⟩

end Bearer
