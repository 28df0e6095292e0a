import Bearer.Proofs.Call.Reach
import Bearer.Store.Refresh
/-! A store of refresh tokens only grows: no reply takes a token away, changes anything about it but
the mark of its revocation, or takes that mark back. `Extends` is the order on stores that says so, and
`Replies` ties each answer of a store to the store before and after it. -/

namespace Bearer

namespace RefreshStore

/-- Every token of the one store is in the other, as it was or revoked since. -/
def Extends (s s' : RefreshStore) : Prop :=
  ∀ v t, s.get? v = some t → s'.get? v = some t ∨ s'.get? v = some t.revoke

theorem Extends.refl (s : RefreshStore) : s.Extends s := fun _ _ h => Or.inl h

theorem Extends.trans {a b c : RefreshStore} (h₁ : a.Extends b) (h₂ : b.Extends c) : a.Extends c := by
  intro v t h
  rcases h₁ v t h with h | h
  · exact h₂ v t h
  · exact Or.inr ((h₂ v t.revoke h).elim id id)

/-- What is said of a stored token and does not depend on its revocation stays true. -/
theorem Extends.found {s s' : RefreshStore} (hs : s.Extends s') {v : String} {Q : Token → Prop}
    (hrevoke : ∀ t, Q t → Q t.revoke) (h : ∃ t, s.get? v = some t ∧ Q t) : ∃ t, s'.get? v = some t ∧ Q t := by
  obtain ⟨t, ht, hq⟩ := h
  rcases hs v t ht with h | h
  · exact ⟨t, h, hq⟩
  · exact ⟨t.revoke, h, hrevoke t hq⟩

/-- A revoked token is stored under this value. -/
def IsRevoked (s : RefreshStore) (v : String) : Prop := ∃ t, s.get? v = some t ∧ t.revoked = true

theorem IsRevoked.mono {s s' : RefreshStore} {v : String} (h : s.IsRevoked v) (hs : s.Extends s') :
    s'.IsRevoked v :=
  hs.found (fun _ _ => rfl) h

@[simp] theorem get?_empty (v : String) : RefreshStore.empty.get? v = none := rfl

theorem get_eq_ok {s : RefreshStore} {v : String} {t : Token} : s.get v = .ok t ↔ s.get? v = some t := by
  unfold get
  cases s.get? v <;> simp

theorem get_eq_error {s : RefreshStore} {v : String} {f : Fault} :
    s.get v = .error f ↔ s.get? v = none ∧ f = .notFound "refresh token" := by
  unfold get
  cases s.get? v <;> simp [eq_comm]

theorem add_fst_eq_ok {s : RefreshStore} {t : Token} : (s.add t).1 = .ok () ↔ s.get? t.value = none := by
  unfold add
  cases s.get? t.value <;> simp

theorem tryRevoke_fst {s : RefreshStore} {v : String} :
    (s.tryRevoke v).1 = true ↔ ∃ t, s.get? v = some t ∧ t.revoked = false := by
  unfold tryRevoke
  cases h : s.get? v with
  | none => simp
  | some t => by_cases hr : t.revoked = true <;> simp [hr]

theorem tryRevoke_of_revoked {s : RefreshStore} {v : String} {t : Token} (h : s.get? v = some t)
    (hr : t.revoked = true) : s.tryRevoke v = (false, s) := by
  simp [tryRevoke, h, hr]

/-- The token under a value is marked as revoked, and nothing else is changed. -/
def Spends (s : RefreshStore) (v : String) (t : Token) (s' : RefreshStore) : Prop :=
  ∀ w, s'.get? w = if w = v then some t.revoke else s.get? w

theorem spends_tryRevoke {s : RefreshStore} {v : String} {t : Token} (h : s.get? v = some t) :
    s.Spends v t (s.tryRevoke v).2 := by
  intro w
  rw [get?_tryRevoke]
  split
  · next hw => rw [hw, h]; rfl
  · rfl

theorem Spends.get?_eq_none {s s' : RefreshStore} {v : String} {t : Token} (h : s.Spends v t s')
    (ht : s.get? v = some t) (w : String) : s'.get? w = none ↔ s.get? w = none := by
  rw [h w]
  split
  · next hw => simp [hw, ht]
  · rfl

theorem isRevoked_tryRevoke {s : RefreshStore} {v : String} {t : Token} (h : s.get? v = some t) :
    (s.tryRevoke v).2.IsRevoked v :=
  ⟨t.revoke, by rw [spends_tryRevoke h v, if_pos rfl], rfl⟩

theorem extends_tryRevoke (s : RefreshStore) (v : String) : s.Extends (s.tryRevoke v).2 := by
  intro w t h
  rw [get?_tryRevoke, h]
  split
  · exact Or.inr rfl
  · exact Or.inl rfl

theorem get?_add_of_some {s : RefreshStore} {t old : Token} {key : String} (h : s.get? key = some old) :
    (s.add t).2.get? key = some old := by
  cases ht : s.get? t.value with
  | some kept => rw [add_of_stored s t kept ht, h]
  | none =>
    have hkey : key ≠ t.value := by
      rintro rfl
      rw [ht] at h
      cases h
    rw [get?_add s t key ht, if_neg hkey, h]

theorem extends_add (s : RefreshStore) (t : Token) : s.Extends (s.add t).2 :=
  fun _ _ h => Or.inl (get?_add_of_some h)

/-- How a store replies to a request, and what becomes of it. What is not for a store to say may be
answered in any way. -/
def Replies (s : RefreshStore) : (r : Request) → r.Answer → RefreshStore → Prop
  | .find v, a, s' => a = s.get v ∧ s' = s
  | .tryRevoke v, a, s' => a = .ok (s.tryRevoke v).1 ∧ s' = (s.tryRevoke v).2
  | .add t, a, s' => a = (s.add t).1 ∧ s' = (s.add t).2
  | _, _, s' => s' = s

theorem Replies.extends {s s' : RefreshStore} {r : Request} {a : r.Answer} (h : s.Replies r a s') :
    s.Extends s' := by
  cases r with
  | tryRevoke v => rw [h.2]; exact extends_tryRevoke s v
  | add t => rw [h.2]; exact extends_add s t
  | find v => rw [h.2]; exact .refl s
  | _ => rw [show s' = s from h]; exact .refl s

/-- A reply puts nothing into the store but the token that it was asked to add. -/
theorem Replies.entry {s s' : RefreshStore} {r : Request} {a : r.Answer} (h : s.Replies r a s') {key : String}
    {t' : Token} (ht' : s'.get? key = some t') :
    (∃ t, s.get? key = some t ∧ (t' = t ∨ t' = t.revoke)) ∨ (r = .add t' ∧ t'.value = key) := by
  cases hs : s.get? key with
  | some t =>
    refine Or.inl ⟨t, rfl, ?_⟩
    have := h.extends key t hs
    rw [ht'] at this
    simpa using this
  | none =>
    cases r with
    | add t =>
      rw [h.2] at ht'
      cases ht : s.get? t.value with
      | some kept => rw [add_of_stored s t kept ht, hs] at ht'; cases ht'
      | none =>
        rw [get?_add s t key ht, hs] at ht'
        simp only [Option.ite_none_right_eq_some, Option.some.injEq] at ht'
        obtain ⟨rfl, rfl⟩ := ht'
        exact Or.inr ⟨rfl, rfl⟩
    | tryRevoke v =>
      rw [h.2, get?_tryRevoke, hs] at ht'
      simp at ht'
    | find v => rw [h.2, hs] at ht'; cases ht'
    | _ => rw [show s' = s from h, hs] at ht'; cases ht'

/-- An entry becomes revoked only when its value is the one to be revoked, and the answer says so. -/
theorem Replies.revoked {s s' : RefreshStore} {r : Request} {a : r.Answer} (h : s.Replies r a s') {key : String}
    {t t' : Token} (ht : s.get? key = some t) (hfresh : t.revoked = false) (ht' : s'.get? key = some t')
    (hrevoked : t'.revoked = true) : (⟨r, a⟩ : Exchange) = ⟨.tryRevoke key, .ok true⟩ := by
  have hne : s'.get? key ≠ some t := by
    rw [ht']
    rintro ⟨⟩
    rw [hfresh] at hrevoked
    cases hrevoked
  cases r with
  | tryRevoke v =>
    obtain ⟨rfl, rfl⟩ := h
    by_cases hv : key = v
    · subst hv
      rw [tryRevoke_fst.2 ⟨t, ht, hfresh⟩]
    · rw [get?_tryRevoke, if_neg hv] at hne
      exact absurd ht hne
  | add w =>
    obtain ⟨-, rfl⟩ := h
    exact absurd (get?_add_of_some ht) hne
  | find v => rw [h.2] at hne; exact absurd ht hne
  | _ => rw [show s' = s from h] at hne; exact absurd ht hne

end RefreshStore

end Bearer
