import Bearer.Proofs.Call.Behaves
import Bearer.Proofs.Service.Requests
/-! The pair that an issue or an exchange comes to, by what it was told on its way: the time, the identifiers and the
value that was drawn. Nothing is assumed of these answers, nor of those of a store. -/

namespace Bearer

/-- A pair that was just made for a user: when its tokens begin and end, and the value that can be exchanged. -/
structure Policy.PairFor (p : Policy) (user : Uuid) (now : Instant) (value : String) (pair : TokenPair) : Prop where
  users : pair.access.user = user ∧ pair.refresh.user = user
  kinds : pair.access.kind = .access ∧ pair.refresh.kind = .refresh
  issued : pair.access.issuedAt = now ∧ pair.refresh.issuedAt = now
  ends : now.add? p.accessTtl = some pair.access.expiresAt ∧ now.add? p.refreshTtl = some pair.refresh.expiresAt
  unrevoked : pair.access.revoked = false ∧ pair.refresh.revoked = false
  value : pair.refresh.value = value

/-- Such a pair, with an access token that is signed for its own times and under its own identifier. -/
structure Policy.Minted (p : Policy) (user : Uuid) (now : Instant) (value : String) (pair : TokenPair) : Prop
    extends p.PairFor user now value pair where
  signed : p.sign ⟨user, p.issuer, now, pair.access.expiresAt⟩ (some pair.access.id) = .ok pair.access.value

namespace Policy

variable {p : Policy} {A : (r : Request) → r.Answer → Prop} {user : Uuid} {now : Instant}

theorem minted_of_create {id id' : Uuid} {value drawn : String} {accessEnd refreshEnd : Instant}
    {access refresh : Token} (ha : expiry now p.accessTtl = .ok accessEnd)
    (hsign : p.sign ⟨user, p.issuer, now, accessEnd⟩ (some id) = .ok value)
    (haccess : Token.create id user value .access now accessEnd = .ok access)
    (hr : expiry now p.refreshTtl = .ok refreshEnd)
    (hrefresh : Token.create id' user drawn .refresh now refreshEnd = .ok refresh) :
    p.Minted user now drawn ⟨access, refresh⟩ := by
  obtain ⟨-, rfl⟩ := Token.create_eq_ok.1 haccess
  obtain ⟨-, rfl⟩ := Token.create_eq_ok.1 hrefresh
  exact ⟨⟨⟨rfl, rfl⟩, ⟨rfl, rfl⟩, ⟨rfl, rfl⟩, ⟨add?_of_expiry ha, add?_of_expiry hr⟩, ⟨rfl, rfl⟩, rfl⟩, hsign⟩

/-- What is left of an issue once it has the time. -/
def mint (p : Policy) (user : Uuid) (now : Instant) : Action TokenPair := do
  let access ← p.accessToken user now
  let refresh ← p.refreshToken user now
  Action.add refresh
  return ⟨access, refresh⟩

theorem issue_eq_mint (p : Policy) (user : Uuid) : p.issue user = Action.now >>= p.mint user := rfl

/-- A token is stored only under a value that was drawn for it. -/
def StoresDrawn (p : Policy) (A : (r : Request) → r.Answer → Prop) : Request → Prop
  | .add t => A (.freshValue p.refreshBytes) t.value
  | _ => True

theorem storesDrawn_of_looksUp (p : Policy) {r : Request} (h : r.LooksUp) : p.StoresDrawn A r := by
  cases r <;> simp_all [Request.LooksUp, StoresDrawn]

/-- A pair that was minted out of what was told. -/
structure MintedOf (p : Policy) (A : (r : Request) → r.Answer → Prop) (user : Uuid) (now : Instant) (pair : TokenPair) :
    Prop extends p.Minted user now pair.refresh.value pair where
  id : A .freshId pair.access.id
  drawn : A (.freshValue p.refreshBytes) pair.refresh.value

theorem behaves_mint (p : Policy) (user : Uuid) (now : Instant) :
    Action.Behaves A (p.StoresDrawn A) (p.MintedOf A user now) (p.mint user now) := by
  simp only [mint, accessToken, refreshToken, Action.behaves_bind, Action.behaves_ofExcept, Action.behaves_freshId,
    Action.behaves_freshValue, Action.behaves_add, Action.behaves_pure]
  intro accessEnd ha
  refine ⟨trivial, fun id hid value hsign access haccess => ⟨trivial, fun id' _ => ⟨trivial, ?_⟩⟩⟩
  intro drawn hdrawn refreshEnd hr refresh hrefresh
  have hminted := minted_of_create ha hsign haccess hr hrefresh
  obtain ⟨-, rfl⟩ := Token.create_eq_ok.1 haccess
  obtain ⟨-, rfl⟩ := Token.create_eq_ok.1 hrefresh
  exact ⟨hdrawn, fun _ _ => ⟨hminted, hid, hdrawn⟩⟩

/-- A grant of a pair that was minted at a time that was told. -/
def GrantedOf (p : Policy) (A : (r : Request) → r.Answer → Prop) (g : Grant) : Prop :=
  ∃ user now pair, A .now now ∧ p.MintedOf A user now pair ∧ g = pair.grant

theorem behaves_issue (p : Policy) (user : Uuid) :
    Action.Behaves A (p.StoresDrawn A) (fun pair => p.GrantedOf A pair.grant) (p.issue user) := by
  rw [issue_eq_mint, Action.behaves_bind, Action.behaves_now]
  exact ⟨trivial, fun now hnow => (p.behaves_mint user now).mono fun pair h => ⟨user, now, pair, hnow, h, rfl⟩⟩

theorem behaves_rotate (p : Policy) (v : String) :
    Action.Behaves A (p.StoresDrawn A) (fun pair => p.GrantedOf A pair.grant) (p.rotate v) := by
  simp [rotate, Action.present, StoresDrawn, behaves_issue]

end Policy

namespace Service

/-- An operation hands out a grant. -/
inductive Operation.Grants (g : Grant) : (op : Operation) → op.Outcome → Prop
  | issue (user : String) : Grants g (.issue user) (.ok g)
  | refresh (v : String) : Grants g (.refresh v) (.ok g)

variable {A : (r : Request) → r.Answer → Prop}

theorem behaves_issue (svc : Service) (user : String) :
    Action.Behaves A (svc.policy.StoresDrawn A) (svc.policy.GrantedOf A) (svc.issue user) := by
  unfold issue
  cases Uuid.parse? user with
  | none => exact Action.behaves_throw _ _
  | some id => simpa using svc.policy.behaves_issue id

theorem behaves_refresh (svc : Service) (v : String) :
    Action.Behaves A (svc.policy.StoresDrawn A) (svc.policy.GrantedOf A) (svc.refresh v) := by
  simpa [refresh] using svc.policy.behaves_rotate v

/-- Whatever a service grants was minted under its policy, and it stores nothing under a value that was not drawn. -/
theorem behaves_perform (svc : Service) (op : Operation) :
    (svc.perform op).Behaves A (svc.policy.StoresDrawn A) fun r => ∀ g, op.Grants g r → svc.policy.GrantedOf A g := by
  cases op with
  | issue user =>
    refine Call.Behaves.mono (svc.behaves_issue user) ?_
    intro r hr g hg
    cases hg
    exact hr
  | refresh v =>
    refine Call.Behaves.mono (svc.behaves_refresh v) ?_
    intro r hr g hg
    cases hg
    exact hr
  | revoke v =>
    have hasks : (withdraw v).run.Does (svc.policy.StoresDrawn A) fun _ => True :=
      Action.does_true.1 (by simp [withdraw, Action.present, Policy.StoresDrawn])
    refine hasks.behaves.mono ?_
    intro r _ g hg
    cases hg
  | introspect token =>
    have hasks := (svc.does_introspect token).weaken fun _ => svc.policy.storesDrawn_of_looksUp (A := A)
    refine hasks.behaves.mono ?_
    intro r _ g hg
    cases hg

end Service

end Bearer
