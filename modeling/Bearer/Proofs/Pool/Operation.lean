import Bearer.Proofs.Call.Action
import Bearer.Proofs.Pool.Run
import Bearer.Proofs.Store.Growth
/-! The operations on tokens, run side by side over one store: what each of them has done by the time it
waits for a certain answer or has come to its end. -/

namespace Bearer

/-- What may be asked of a store's services, each of them under a policy of its own. -/
inductive Operation
  | issue (p : Policy) (user : Uuid)
  | rotate (p : Policy) (value : String)
  | withdraw (value : String)

namespace Operation

abbrev Result : Operation → Type
  | issue _ _ => TokenPair
  | rotate _ _ => TokenPair
  | withdraw _ => Unit

abbrev Outcome (op : Operation) : Type := Except Fault op.Result

def action : (op : Operation) → Action op.Result
  | issue p user => p.issue user
  | rotate p value => p.rotate value
  | withdraw value => Bearer.withdraw value

def call (op : Operation) : Call op.Outcome := op.action.run

abbrev Run (p : Pool RefreshStore Outcome) (log : List (Pool.Event Operation))
    (q : Pool RefreshStore Outcome) : Prop :=
  Pool.Run call RefreshStore.Replies p log q

end Operation

/-- How far an exchange of a refresh value has come, by what it was answered. -/
inductive RotatePath (p : Policy) (v : String) : List Exchange → Call (Except Fault TokenPair) → Prop
  | begun {c : Call (Except Fault TokenPair)} : c.Waits (.find v) → RotatePath p v [] c
  | missed (f : Fault) : RotatePath p v [⟨.find v, .error f⟩] (.done (.error f.missAsInvalid))
  | found (t : Token) {c : Call (Except Fault TokenPair)} :
      c.Waits .now → RotatePath p v [⟨.find v, .ok t⟩] c
  | expired (t : Token) (now : Instant) : t.isExpired now = true →
      RotatePath p v [⟨.find v, .ok t⟩, ⟨.now, now⟩] (.done (.error (.token .expired)))
  | revoked (t : Token) (now : Instant) : t.isExpired now = false → t.revoked = true →
      RotatePath p v [⟨.find v, .ok t⟩, ⟨.now, now⟩] (.done (.error (.token .revoked)))
  | usable (t : Token) (now : Instant) {c : Call (Except Fault TokenPair)} : t.isUsable now = true →
      c.Waits (.tryRevoke v) → RotatePath p v [⟨.find v, .ok t⟩, ⟨.now, now⟩] c
  | failed (t : Token) (now : Instant) (f : Fault) : t.isUsable now = true →
      RotatePath p v [⟨.find v, .ok t⟩, ⟨.now, now⟩, ⟨.tryRevoke v, .error f⟩] (.done (.error f))
  | lost (t : Token) (now : Instant) : t.isUsable now = true →
      RotatePath p v [⟨.find v, .ok t⟩, ⟨.now, now⟩, ⟨.tryRevoke v, .ok false⟩]
        (.done (.error (.token .revoked)))
  | won (t : Token) (now : Instant) {xs : List Exchange} {c : Call (Except Fault TokenPair)} :
      t.isUsable now = true → (p.issue t.user).run.Reaches xs c →
      RotatePath p v (⟨.find v, .ok t⟩ :: ⟨.now, now⟩ :: ⟨.tryRevoke v, .ok true⟩ :: xs) c

theorem rotatePath_of_reaches {p : Policy} {v : String} {xs : List Exchange}
    {c : Call (Except Fault TokenPair)} (h : (p.rotate v).run.Reaches xs c) : RotatePath p v xs c := by
  rw [Policy.run_rotate] at h
  rcases Call.reaches_ask h with ⟨rfl, rfl⟩ | ⟨r, ys, rfl, h₁⟩
  · exact .begun ⟨_, rfl⟩
  cases r with
  | error f =>
    obtain ⟨rfl, rfl⟩ := Call.reaches_done h₁
    exact .missed f
  | ok t =>
    rcases Call.reaches_ask h₁ with ⟨rfl, rfl⟩ | ⟨now, zs, rfl, h₂⟩
    · exact .found t ⟨_, rfl⟩
    by_cases he : t.isExpired now = true
    · rw [if_pos he] at h₂
      obtain ⟨rfl, rfl⟩ := Call.reaches_done h₂
      exact .expired t now he
    rw [if_neg he] at h₂
    by_cases hr : t.revoked = true
    · rw [if_pos hr] at h₂
      obtain ⟨rfl, rfl⟩ := Call.reaches_done h₂
      exact .revoked t now (by simpa using he) hr
    rw [if_neg hr] at h₂
    have hu : t.isUsable now = true := Token.isUsable_eq_true.2 ⟨by simpa using he, by simpa using hr⟩
    rcases Call.reaches_ask h₂ with ⟨rfl, rfl⟩ | ⟨won, ws, rfl, h₃⟩
    · exact .usable t now hu ⟨_, rfl⟩
    rcases won with f | _ | _
    · obtain ⟨rfl, rfl⟩ := Call.reaches_done h₃
      exact .failed t now f hu
    · obtain ⟨rfl, rfl⟩ := Call.reaches_done h₃
      exact .lost t now hu
    · exact .won t now hu h₃

/-- How far the withdrawal of a refresh value has come, by what it was answered. -/
inductive WithdrawPath (v : String) : List Exchange → Call (Except Fault Unit) → Prop
  | begun {c : Call (Except Fault Unit)} : c.Waits (.find v) → WithdrawPath v [] c
  | missed (f : Fault) : WithdrawPath v [⟨.find v, .error f⟩] (.done (.error f.missAsInvalid))
  | found (t : Token) {c : Call (Except Fault Unit)} : c.Waits .now → WithdrawPath v [⟨.find v, .ok t⟩] c
  | settled (t : Token) (now : Instant) : t.isUsable now = false →
      WithdrawPath v [⟨.find v, .ok t⟩, ⟨.now, now⟩] (.done (.ok ()))
  | usable (t : Token) (now : Instant) {c : Call (Except Fault Unit)} : t.isUsable now = true →
      c.Waits (.tryRevoke v) → WithdrawPath v [⟨.find v, .ok t⟩, ⟨.now, now⟩] c
  | failed (t : Token) (now : Instant) (f : Fault) : t.isUsable now = true →
      WithdrawPath v [⟨.find v, .ok t⟩, ⟨.now, now⟩, ⟨.tryRevoke v, .error f⟩] (.done (.error f))
  | tried (t : Token) (now : Instant) (won : Bool) : t.isUsable now = true →
      WithdrawPath v [⟨.find v, .ok t⟩, ⟨.now, now⟩, ⟨.tryRevoke v, .ok won⟩] (.done (.ok ()))

theorem withdrawPath_of_reaches {v : String} {xs : List Exchange} {c : Call (Except Fault Unit)}
    (h : (withdraw v).run.Reaches xs c) : WithdrawPath v xs c := by
  rw [run_withdraw] at h
  rcases Call.reaches_ask h with ⟨rfl, rfl⟩ | ⟨r, ys, rfl, h₁⟩
  · exact .begun ⟨_, rfl⟩
  cases r with
  | error f =>
    obtain ⟨rfl, rfl⟩ := Call.reaches_done h₁
    exact .missed f
  | ok t =>
    rcases Call.reaches_ask h₁ with ⟨rfl, rfl⟩ | ⟨now, zs, rfl, h₂⟩
    · exact .found t ⟨_, rfl⟩
    by_cases hd : (t.isExpired now || t.revoked) = true
    · rw [if_pos hd] at h₂
      obtain ⟨rfl, rfl⟩ := Call.reaches_done h₂
      exact .settled t now (Token.isUsable_eq_false.2 (by simpa using hd))
    rw [if_neg hd] at h₂
    have hu : t.isUsable now = true := Token.isUsable_eq_true.2 (by simpa using hd)
    rcases Call.reaches_ask h₂ with ⟨rfl, rfl⟩ | ⟨won, ws, rfl, h₃⟩
    · exact .usable t now hu ⟨_, rfl⟩
    cases won with
    | error f =>
      obtain ⟨rfl, rfl⟩ := Call.reaches_done h₃
      exact .failed t now f hu
    | ok won =>
      obtain ⟨rfl, rfl⟩ := Call.reaches_done h₃
      exact .tried t now won hu

end Bearer
