import Bearer.Proofs.Pool.Stored
import Bearer.Proofs.Service.Minted
import Bearer.Proofs.Signing.Stated
import Mathlib.Data.List.Nodup
/-! No access token is handed out twice. Each is signed under an identifier that was drawn for it, which can be read off
its text, so the tokens differ if the identifiers do; neither the clock nor what is stored has a part in it. -/

namespace Bearer

open Pool Signing

namespace Pool

variable {ω : Type}

/-- The identifiers that were drawn, each with the call that drew it. -/
def identified (log : List (Event ω)) : List (Nat × Uuid) :=
  log.filterMap fun
    | .answered i ⟨.freshId, id⟩ => some (i, id)
    | _ => none

theorem mem_identified {log : List (Event ω)} {i : Nat} {id : Uuid} (h : .answered i ⟨.freshId, id⟩ ∈ log) :
    (i, id) ∈ identified log :=
  List.mem_filterMap.2 ⟨_, h, rfl⟩

/-- No identifier is drawn twice. -/
def Unrepeated (log : List (Event ω)) : Prop := ((identified log).map Prod.snd).Nodup

/-- An identifier is drawn by one call. -/
theorem Unrepeated.call_eq {log : List (Event ω)} (h : Unrepeated log) {i j : Nat} {id : Uuid}
    (hi : .answered i ⟨.freshId, id⟩ ∈ log) (hj : .answered j ⟨.freshId, id⟩ ∈ log) : i = j :=
  congrArg Prod.fst (List.inj_on_of_nodup_map h (mem_identified hi) (mem_identified hj) rfl)

end Pool

namespace Service

variable {svc : Service} {σ : Type} {Replies : σ → (r : Request) → r.Answer → σ → Prop} {s : σ}
  {log : List (Event Operation)} {pool : Pool σ Operation.Outcome}

/-- What a call of a run has granted was minted out of what was told to this call. -/
theorem granted_of_run (h : Pool.Run svc.perform Replies (.start s) log pool) {i : Nat} {op : Operation}
    {r : op.Outcome} (hi : pool.calls[i]? = some ⟨op, .done r⟩) {g : Grant} (hg : op.Grants g r) :
    svc.policy.GrantedOf (fun r a => .answered i ⟨r, a⟩ ∈ log) g :=
  (h.reaches_of_start hi).behaves (svc.behaves_perform op) (fun _ hx => mem_history.1 hx) g hg

/-- Of a service with a policy in order: two tokens that are signed under identifiers are the same text only if the
identifiers, the subjects, the issuers and both times in whole seconds are the same. So in a run in which no identifier
is drawn twice no two calls hand out the same access token, whatever else they are answered. -/
theorem access_unrepeated (svc : Service) (hp : svc.policy.check = .ok ()) :
    (∀ c₁ c₂ id₁ id₂, svc.policy.sign c₁ (some id₁) = svc.policy.sign c₂ (some id₂) →
      id₁ = id₂ ∧ c₁.subject = c₂.subject ∧ c₁.issuer = c₂.issuer ∧ c₁.issuedAt.seconds = c₂.issuedAt.seconds ∧
        c₁.expiresAt.seconds = c₂.expiresAt.seconds) ∧
    ∀ {σ : Type} {Replies : σ → (r : Request) → r.Answer → σ → Prop} {s : σ} {log : List (Event Operation)}
      {pool : Pool σ Operation.Outcome}, Pool.Run svc.perform Replies (.start s) log pool → Unrepeated log →
      ∀ {i j : Nat} {op op' : Operation} {r : op.Outcome} {r' : op'.Outcome} {g g' : Grant}, i ≠ j →
        pool.calls[i]? = some ⟨op, .done r⟩ → op.Grants g r → pool.calls[j]? = some ⟨op', .done r'⟩ → op'.Grants g' r' →
        g.access ≠ g'.access := by
  constructor
  · intro c₁ c₂ id₁ id₂ hsame
    obtain ⟨hash, hhash⟩ := Policy.hash?_of_check hp
    obtain ⟨token, hsign⟩ : ∃ token, svc.policy.sign c₁ (some id₁) = .ok token := ⟨_, Policy.sign_eq hhash _ _⟩
    exact Policy.claims_eq_of_ofClaims (Policy.ofClaims_eq_of_sign hsign (hsame.symm.trans hsign))
  · intro σ Replies s log pool h hlog i j op op' r r' g g' hij hi hg hj hg' hsame
    obtain ⟨user, now, pair, -, hpair, rfl⟩ := granted_of_run h hi hg
    obtain ⟨user', now', pair', -, hpair', rfl⟩ := granted_of_run h hj hg'
    have hsame : pair.access.value = pair'.access.value := hsame
    -- one text has one identifier, which both calls would have drawn
    obtain ⟨hid, -⟩ :=
      Policy.claims_eq_of_ofClaims (Policy.ofClaims_eq_of_sign (hsame ▸ hpair.signed) hpair'.signed)
    exact hij (hlog.call_eq hpair.id (hid ▸ hpair'.id))

/-- Two pairs for one user, made in the same instant by calls that run at the same time. -/
theorem access_unrepeated_at_once : ∃ log pool g g',
    Service.Run ⟨.development, none⟩ (.start .empty) log pool ∧ Unrepeated log ∧
      pool.calls = [⟨.issue "00000000-0000-0000-0000-000000000007", .done (.ok g)⟩,
        ⟨.issue "00000000-0000-0000-0000-000000000007", .done (.ok g')⟩] ∧ g.access ≠ g'.access := by
  obtain ⟨log, pool, g, g', h, hlog, hcalls⟩ : ∃ log pool g g',
      Service.Run ⟨.development, none⟩ (.start .empty) log pool ∧ Unrepeated log ∧
        pool.calls = [⟨.issue "00000000-0000-0000-0000-000000000007", .done (.ok g)⟩,
          ⟨.issue "00000000-0000-0000-0000-000000000007", .done (.ok g')⟩] := by
    have h := (Run.nil _ : Service.Run ⟨.development, none⟩ (.start .empty) [] _)
    have h := h.snoc (.begin _ (.issue "00000000-0000-0000-0000-000000000007"))
    have h := h.snoc (.begin _ (.issue "00000000-0000-0000-0000-000000000007"))
    have h := h.snoc (.answer (i := 0) (r := .now) default rfl rfl)
    have h := h.snoc (.answer (i := 1) (r := .now) default rfl rfl)
    have h := h.snoc (.answer (i := 0) (r := .freshId) (Uuid.ofNat 1) rfl rfl)
    have h := h.snoc (.answer (i := 1) (r := .freshId) (Uuid.ofNat 2) rfl rfl)
    have h := h.snoc (.answer (i := 0) (r := .freshId) (Uuid.ofNat 3) rfl rfl)
    have h := h.snoc (.answer (i := 1) (r := .freshId) (Uuid.ofNat 4) rfl rfl)
    have h := h.snoc (.answer (i := 0) (r := .freshValue 64) "a" rfl rfl)
    have h := h.snoc (.answer (i := 1) (r := .freshValue 64) "b" rfl rfl)
    have h := h.snoc (.answer (i := 0) (r := .add _) (.ok ()) rfl ⟨rfl, rfl⟩)
    have h := h.snoc (.answer (i := 1) (r := .add _) (.ok ()) rfl ⟨rfl, rfl⟩)
    refine ⟨_, _, _, _, h, ?_, rfl⟩
    show [Uuid.ofNat 1, Uuid.ofNat 2, Uuid.ofNat 3, Uuid.ofNat 4].Nodup
    decide
  obtain ⟨-, hdiffer⟩ := access_unrepeated ⟨.development, none⟩ rfl
  refine ⟨log, pool, g, g', h, hlog, hcalls, ?_⟩
  exact hdiffer h hlog (i := 0) (j := 1) (by decide) (by rw [hcalls]; rfl) (.issue _) (by rw [hcalls]; rfl) (.issue _)

end Service

end Bearer
