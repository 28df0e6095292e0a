import Bearer.Proofs.Pool.Answers
import Bearer.Proofs.Service.Requests
/-! What the store of a service holds at any time. Whatever the clock and the generators say, an entry is a
refresh token under its own value that lives as long as the policy says; it stays for good, and only an
operation to which its value was presented can mark it as revoked. -/

namespace Bearer

open Pool

namespace Service

abbrev Run (s : Service) (p : Pool RefreshStore Operation.Outcome) (log : List (Event Operation))
    (q : Pool RefreshStore Operation.Outcome) : Prop :=
  Pool.Run s.perform RefreshStore.Replies p log q

variable {s : Service} {log log₁ log₂ : List (Event Operation)}
  {pool pool₁ pool₂ : Pool RefreshStore Operation.Outcome}

/-- The request that a call waits for is one that is allowed to its operation. -/
theorem mayAsk_of_waiting {s₀ : RefreshStore} (h : s.Run (.start s₀) log pool) {i : Nat} {op : Operation}
    {r : Request} {next : r.Answer → Call op.Outcome} (hi : pool.calls[i]? = some ⟨op, .ask r next⟩) :
    s.policy.MayAsk op.presented r :=
  (h.does s.does_perform hi).1

/-- Every entry is the store's own, of the policy's lifetime. -/
theorem stored_of_run (h : s.Run (.start .empty) log pool) :
    ∀ key t, pool.shared.get? key = some t → s.policy.Stored key t := by
  refine h.preserves (I := fun pool => ∀ key t, pool.shared.get? key = some t → s.policy.Stored key t)
    (fun key t ht => ?_) (fun hm hs ih key t ht => ?_)
  · rw [start, RefreshStore.get?_empty] at ht
    cases ht
  · cases hs with
    | begin => exact ih key t ht
    | answer a hi hr =>
      rcases hr.entry ht with ⟨old, hold, rfl | rfl⟩ | ⟨rfl, rfl⟩
      · exact ih key t hold
      · exact (ih key old hold).revoke
      · exact mayAsk_of_waiting hm hi

/-- A token that has been revoked in a run was revoked by the one operation of it that won the change, to which
its value had been presented. -/
theorem winner_of_revoked {s₀ : RefreshStore} (h₁ : s.Run (.start s₀) log₁ pool₁) (h₂ : s.Run pool₁ log₂ pool₂)
    {key : String} {t t' : Token} (ht : pool₁.shared.get? key = some t) (hfresh : t.revoked = false)
    (ht' : pool₂.shared.get? key = some t') (hrevoked : t'.revoked = true) :
    ∃ i ∈ winners key log₂, ∃ (op : Operation) (c : Call op.Outcome), pool₂.calls[i]? = some ⟨op, c⟩ ∧
      (op = .refresh key ∨ op = .revoke key) := by
  induction h₂ generalizing t' with
  | nil =>
    rw [ht, Option.some.injEq] at ht'
    rw [ht', hrevoked] at hfresh
    cases hfresh
  | @snoc m n log e hm hs ih =>
    obtain ⟨tm, htm⟩ : ∃ tm, m.shared.get? key = some tm := (hm.extends key t ht).elim (⟨_, ·⟩) (⟨_, ·⟩)
    cases hrev : tm.revoked with
    | true =>
      obtain ⟨i, hi, op, c, hc, hop⟩ := ih htm hrev
      obtain ⟨d, hd⟩ := ((Run.nil m).snoc hs).kept hc
      exact ⟨i, mem_winners.2 (List.mem_append_left _ (mem_winners.1 hi)), op, d, hd, hop⟩
    | false =>
      cases hs with
      | begin op =>
        rw [show m.shared.get? key = some t' from ht'] at htm
        cases htm
        rw [hrevoked] at hrev
        cases hrev
      | @answer i op r next a s' hi hr =>
        have hx := hr.revoked htm hrev ht' hrevoked
        have hask := mayAsk_of_waiting (h₁.trans hm) hi
        have hlt := (List.getElem?_eq_some_iff.1 hi).1
        refine ⟨i, mem_winners.2 (by simp [hx]), op, _, List.getElem?_set_self hlt, ?_⟩
        cases hx
        exact Operation.presented_eq_some.1 hask

/-- Every entry of the store is a refresh token under its own value with the policy's lifetime, and it is there for
good: later it is as it was, or revoked besides, and then an operation to which its value was presented has
made that change. -/
theorem stored_tokens_kept (h₁ : s.Run (.start .empty) log₁ pool₁) (h₂ : s.Run pool₁ log₂ pool₂)
    {key : String} {t : Token} (ht : pool₁.shared.get? key = some t) :
    s.policy.Stored key t ∧
    ∃ t', pool₂.shared.get? key = some t' ∧ (t' = t ∨ t' = t.revoke) ∧
      (t.revoked = false → t'.revoked = true →
        ∃ i ∈ winners key log₂, ∃ (op : Operation) (c : Call op.Outcome), pool₂.calls[i]? = some ⟨op, c⟩ ∧
          (op = .refresh key ∨ op = .revoke key)) := by
  refine ⟨stored_of_run h₁ key t ht, ?_⟩
  rcases h₂.extends key t ht with ht' | ht'
  · exact ⟨t, ht', Or.inl rfl, fun hfresh => winner_of_revoked h₁ h₂ ht hfresh ht'⟩
  · exact ⟨t.revoke, ht', Or.inr rfl, fun hfresh => winner_of_revoked h₁ h₂ ht hfresh ht'⟩

/-- A token that was stored when the run set out is revoked at the end of it. -/
theorem stored_tokens_kept_and_revoked : ∃ log₁ log₂ pool₁ pool₂ t,
    Service.Run ⟨.development, none⟩ (.start .empty) log₁ pool₁ ∧
      Service.Run ⟨.development, none⟩ pool₁ log₂ pool₂ ∧
      pool₁.shared.get? "r" = some t ∧ t.revoked = false ∧ Policy.development.Stored "r" t ∧
      pool₂.shared.get? "r" = some t.revoke ∧ winners "r" log₂ = [1] := by
  have h₁ := (Run.nil _ : Service.Run ⟨.development, none⟩ (.start .empty) [] _)
  have h₁ := h₁.snoc (.begin _ (.issue "00000000-0000-0000-0000-000000000007"))
  have h₁ := h₁.snoc (.answer (i := 0) (r := .now) default rfl rfl)
  have h₁ := h₁.snoc (.answer (i := 0) (r := .freshId) (Uuid.ofNat 1) rfl rfl)
  have h₁ := h₁.snoc (.answer (i := 0) (r := .freshId) (Uuid.ofNat 2) rfl rfl)
  have h₁ := h₁.snoc (.answer (i := 0) (r := .freshValue 64) "r" rfl rfl)
  have h₁ := h₁.snoc (.answer (i := 0) (r := .add _) (.ok ()) rfl ⟨rfl, rfl⟩)
  have h₂ := h₁.onward.snoc (.begin _ (.revoke "r"))
  have h₂ := h₂.snoc (.answer (i := 1) (r := .find "r") (.ok _) rfl ⟨rfl, rfl⟩)
  have h₂ := h₂.snoc (.answer (i := 1) (r := .now) default rfl rfl)
  have h₂ := h₂.snoc (.answer (i := 1) (r := .tryRevoke "r") (.ok true) rfl ⟨rfl, rfl⟩)
  exact ⟨_, _, _, _, _, h₁, h₂, rfl, rfl, (stored_tokens_kept h₁ h₂ rfl).1, rfl, rfl⟩

end Service

end Bearer
