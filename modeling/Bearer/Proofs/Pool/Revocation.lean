import Bearer.Proofs.Call.Alone
import Bearer.Proofs.Pool.Stored
/-! A withdrawal succeeds exactly on the values that were ever handed out. What has become of such a value since does not
matter, for no store forgets one; it matters only for what the withdrawal writes, and then a second one has nothing left
to write. -/

namespace Bearer

/-- A token as its withdrawal leaves it. An expired one is not worth the mark. -/
def Token.withdrawn (now : Instant) (t : Token) : Token :=
  { t with revoked := t.revoked || decide (now < t.expiresAt) }

section

variable {now later : Instant} {others : (r : Request) → r.Answer} {d : Draws} {s s' : RefreshStore} {v : String}
  {t : Token}

theorem Token.withdrawn_of_unusable (h : t.isUsable now = false) : t.withdrawn now = t := by
  have hmark : (t.revoked || decide (now < t.expiresAt)) = t.revoked := by
    rcases Token.isUsable_eq_false.1 h with he | hr
    · have hended : ¬now < t.expiresAt := Int.not_lt.2 (of_decide_eq_true he : t.expiresAt ≤ now)
      simp [hended]
    · simp [hr]
  rw [withdrawn, hmark]

theorem Token.withdrawn_of_usable (h : t.isUsable now = true) : t.withdrawn now = t.revoke := by
  have hlive : now < t.expiresAt := Int.not_le.1 (of_decide_eq_false (Token.isUsable_eq_true.1 h).1)
  simp [withdrawn, revoke, hlive]

/-- Not to be usable is for good. -/
theorem Token.unusable_mono (h : t.isUsable now = false) (hle : now ≤ later) : t.isUsable later = false := by
  rw [Token.isUsable_eq_false] at h ⊢
  exact h.imp_left (Token.isExpired_mono · hle)

theorem Token.unusable_revoke (t : Token) (now : Instant) : t.revoke.isUsable now = false :=
  Token.isUsable_eq_false.2 (Or.inr rfl)

theorem Token.unusable_withdrawn (now : Instant) (t : Token) : (t.withdrawn now).isUsable now = false := by
  cases hu : t.isUsable now with
  | true =>
    rw [withdrawn_of_usable hu]
    exact unusable_revoke t now
  | false => rw [withdrawn_of_unusable hu, hu]

/-- The withdrawal of a stored value succeeds, and of the store it changes the one entry. -/
theorem alone_withdraw (h : s.get? v = some t) :
    ∃ s', (withdraw v).run.alone now others d s = (.ok (), s') ∧
      ∀ w, s'.get? w = if w = v then some (t.withdrawn now) else s.get? w := by
  cases hu : t.isUsable now with
  | true =>
    rw [Token.withdrawn_of_usable hu]
    exact ⟨_, alone_withdraw_of_usable h hu, RefreshStore.spends_tryRevoke h⟩
  | false =>
    refine ⟨s, alone_withdraw_of_unusable h hu, fun w => ?_⟩
    rw [Token.withdrawn_of_unusable hu]
    split
    · next hw => rw [hw, h]
    · rfl

/-- Behind a withdrawal, whatever has happened to the store since, another one changes nothing. -/
theorem alone_withdraw_again (h : s.get? v = some (t.withdrawn now)) (hs : s.Extends s') (hle : now ≤ later) :
    (withdraw v).run.alone later others d s' = (.ok (), s') := by
  obtain ⟨t', ht', hu⟩ := hs.found (Q := fun t' => t'.isUsable later = false)
    (fun t' _ => Token.unusable_revoke t' later) ⟨_, h, Token.unusable_mono (Token.unusable_withdrawn now t) hle⟩
  exact alone_withdraw_of_unusable ht' hu

end

open Pool

namespace Service

/-- The operations that hand out a refresh token. -/
def Operation.HandsOut : Operation → Prop
  | issue _ => True
  | refresh _ => True
  | _ => False

/-- No other operation asks the store to add a token. -/
theorem handsOut_of_add (svc : Service) (op : Operation) :
    (svc.perform op).Does (fun r => ∀ t, r = .add t → op.HandsOut) fun _ => True := by
  cases op with
  | issue user => exact (svc.does_perform (.issue user)).weaken fun _ _ _ _ => trivial
  | refresh value => exact (svc.does_perform (.refresh value)).weaken fun _ _ _ _ => trivial
  | revoke value =>
    rw [perform, ← Action.does_true]
    simp [action, revoke, withdraw, Action.present]
  | introspect token =>
    refine (svc.does_introspect token).weaken fun r hr t ht => ?_
    subst ht
    exact hr

variable {svc : Service} {log : List (Event Operation)} {pool : Pool RefreshStore Operation.Outcome}

/-- A call that hands out a refresh token has had one with this value stored. -/
def HandedOut (log : List (Event Operation)) (pool : Pool RefreshStore Operation.Outcome) (v : String) : Prop :=
  ∃ i t op c, .answered i ⟨.add t, .ok ()⟩ ∈ log ∧ t.value = v ∧ pool.calls[i]? = some ⟨op, c⟩ ∧ op.HandsOut

theorem Run.handsOut (h : svc.Run (.start .empty) log pool) {i : Nat} {t : Token} {a : Except Fault Unit}
    (he : .answered i ⟨.add t, a⟩ ∈ log) :
    ∃ (op : Operation) (c : Call op.Outcome), pool.calls[i]? = some ⟨op, c⟩ ∧ op.HandsOut := by
  obtain ⟨log₁, log₂, m, n, -, hm, hs, hn⟩ := Pool.Run.of_mem h he
  have hstep : svc.Run m [.answered i ⟨.add t, a⟩] n := (Pool.Run.nil m).snoc hs
  cases hs with
  | @answer _ op _ next _ s hi hr =>
    obtain ⟨c, hc⟩ := (hstep.trans hn).kept hi
    exact ⟨op, c, hc, (Pool.Run.does hm svc.handsOut_of_add hi).1 t rfl⟩

/-- A store that was empty holds a token under each value that was handed out, and under no other. -/
theorem handedOut_iff (h : svc.Run (.start .empty) log pool) {v : String} :
    HandedOut log pool v ↔ ∃ t, pool.shared.get? v = some t := by
  constructor
  · rintro ⟨i, t, op, c, he, rfl, -⟩
    exact (Pool.Run.stored_of_added h he).elim (⟨_, ·⟩) (⟨_, ·⟩)
  · rintro ⟨t, ht⟩
    obtain ⟨i, t₀, he, hv, -⟩ := Pool.Run.added_of_stored h ht
    obtain ⟨op, c, hc, hop⟩ := Run.handsOut h he
    exact ⟨i, t₀, op, c, he, hv, hc, hop⟩

/-- Behind any run that set out from an empty store, and at any reading of the clock. A withdrawal succeeds if and only
if the value was handed out before, and else finds the value invalid. In the store it can change nothing but the mark of
that token, which is set then if it was set before or the token is not expired. Once it has succeeded, another one that
comes no earlier succeeds as well and changes nothing, whatever has happened in between. -/
theorem revocation_outcome (h : svc.Run (.start .empty) log pool) (others : (r : Request) → r.Answer) (v : String)
    (now : Instant) (d : Draws) :
    ∃ r s', (svc.revoke v).run.alone now others d pool.shared = (r, s') ∧
      (r = .ok () ↔ HandedOut log pool v) ∧
      (r = .ok () ∨ r = .error (.token .invalid)) ∧
      (∀ w, s'.get? w = if w = v then (pool.shared.get? v).map (Token.withdrawn now) else pool.shared.get? w) ∧
      (r = .ok () → ∀ s'', s'.Extends s'' → ∀ later others d, now ≤ later →
        (svc.revoke v).run.alone later others d s'' = (.ok (), s'')) := by
  rw [handedOut_iff h]
  cases hv : pool.shared.get? v with
  | none =>
    refine ⟨_, _, alone_withdraw_of_missing hv, by simp, Or.inr rfl, fun w => ?_, by simp⟩
    split
    · next hw => rw [hw, hv]; rfl
    · rfl
  | some t =>
    obtain ⟨s', hrevoke, hs'⟩ : ∃ s', (svc.revoke v).run.alone now others d pool.shared = (.ok (), s') ∧
        ∀ w, s'.get? w = if w = v then some (t.withdrawn now) else pool.shared.get? w := alone_withdraw hv
    refine ⟨_, s', hrevoke, by simp, Or.inl rfl, hs', fun _ s'' hs later others d hle => ?_⟩
    have hleft : s'.get? v = some (t.withdrawn now) := by rw [hs', if_pos rfl]
    exact alone_withdraw_again hleft hs hle

/-- A token that has expired takes no mark, and yet its value is not invalid. -/
theorem revocation_outcome_expired : ∃ log pool t now,
    Service.Run ⟨.development, none⟩ (.start .empty) log pool ∧ pool.shared.get? "r" = some t ∧
      t.expiresAt = now ∧ t.revoked = false ∧ HandedOut log pool "r" ∧
      ∀ others d, ∃ s', (revoke ⟨.development, none⟩ "r").run.alone now others d pool.shared = (.ok (), s') ∧
        s'.get? "r" = some t ∧ (revoke ⟨.development, none⟩ "r").run.alone now others d s' = (.ok (), s') := by
  have h := (Run.nil _ : Service.Run ⟨.development, none⟩ (.start .empty) [] _)
  have h := h.snoc (.begin _ (.issue "00000000-0000-0000-0000-000000000007"))
  have h := h.snoc (.answer (i := 0) (r := .now) default rfl rfl)
  have h := h.snoc (.answer (i := 0) (r := .freshId) (Uuid.ofNat 1) rfl rfl)
  have h := h.snoc (.answer (i := 0) (r := .freshId) (Uuid.ofNat 2) rfl rfl)
  have h := h.snoc (.answer (i := 0) (r := .freshValue 64) "r" rfl rfl)
  have h := h.snoc (.answer (i := 0) (r := .add _) (.ok ()) rfl ⟨rfl, rfl⟩)
  obtain ⟨log, pool, t, h, ht, hr⟩ : ∃ log pool t, Service.Run ⟨.development, none⟩ (.start .empty) log pool ∧
      pool.shared.get? "r" = some t ∧ t.revoked = false := ⟨_, _, _, h, rfl, rfl⟩
  have hmade : HandedOut log pool "r" := (handedOut_iff h).2 ⟨t, ht⟩
  refine ⟨log, pool, t, t.expiresAt, h, ht, rfl, hr, hmade, fun others d => ?_⟩
  obtain ⟨r, s', hrevoke, hok, -, hs', hagain⟩ := revocation_outcome h others "r" t.expiresAt d
  obtain rfl := hok.2 hmade
  have hended : t.isUsable t.expiresAt = false :=
    Token.isUsable_eq_false.2 (Or.inl (decide_eq_true (Int.le_refl _)))
  have hleft : s'.get? "r" = some t := by
    rw [hs', if_pos rfl, ht, Option.map_some, Token.withdrawn_of_unusable hended]
  exact ⟨s', hrevoke, hleft, hagain rfl s' (.refl s') _ others d (Int.le_refl _)⟩

end Service

end Bearer
