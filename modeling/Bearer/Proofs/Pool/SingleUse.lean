import Bearer.Proofs.Pool.Answers
import Bearer.Proofs.Pool.Operation
/-! A refresh value is used once. The change from usable to revoked is made at most once in a run, since the
store that has seen it never takes it back, and only the call that made it goes on to draw anything or to
store a new token. -/

namespace Bearer

open Pool

variable {s : RefreshStore} {log : List (Event Operation)} {pool : Pool RefreshStore Operation.Outcome}

section Winners

variable {ω : Type} {Result : ω → Type} {perform : (op : ω) → Call (Result op)}
  {p q : Pool RefreshStore Result} {log : List (Event ω)}

theorem winners_append (v : String) (log log' : List (Event ω)) :
    winners v (log ++ log') = winners v log ++ winners v log' := by
  simp [winners]

theorem winners_singleton (v : String) (e : Event ω) :
    winners v [e] = [] ∨ ∃ i, e = .answered i ⟨.tryRevoke v, .ok true⟩ ∧ winners v [e] = [i] := by
  cases h : winners v [e] with
  | nil => exact Or.inl rfl
  | cons i rest =>
    have hi : i ∈ winners v [e] := by simp [h]
    rw [mem_winners, List.mem_singleton] at hi
    refine Or.inr ⟨i, hi.symm, ?_⟩
    rw [← h, ← hi]
    simp [winners]

/-- Whoever wins a value finds it usable, and leaves it revoked to all who come later. -/
theorem Pool.Run.winners_le (h : Run perform RefreshStore.Replies p log q) (v : String) :
    (winners v log).length ≤ 1 ∧ (winners v log ≠ [] → q.shared.IsRevoked v) := by
  induction h with
  | nil => exact ⟨by simp [winners], fun h => absurd rfl h⟩
  | @snoc m n log e hm hs ih =>
    obtain ⟨hle, hrev⟩ := ih
    have hgrow := (Run.snoc (Run.nil m) hs).extends
    rw [winners_append]
    rcases winners_singleton v e with he | ⟨i, rfl, he⟩
    · rw [he, List.append_nil]
      exact ⟨hle, fun hne => (hrev hne).mono hgrow⟩
    · cases hs with
      | answer _ _ hr =>
        obtain ⟨ha, rfl⟩ := hr
        obtain ⟨t, ht, hfresh⟩ := RefreshStore.tryRevoke_fst.1 (Except.ok.inj ha).symm
        -- an earlier winner would have left the value revoked
        have hnil : winners v log = [] := by
          refine Decidable.byContradiction fun hne => ?_
          obtain ⟨t', ht', hr'⟩ := hrev hne
          rw [ht] at ht'
          cases ht'
          rw [hfresh] at hr'
          cases hr'
        rw [he, hnil]
        exact ⟨Nat.le_refl 1, fun _ => RefreshStore.isRevoked_tryRevoke ht⟩

/-- A value is won by one call. -/
theorem Pool.Run.winner_unique (h : Run perform RefreshStore.Replies p log q) {v : String} {i j : Nat}
    (hi : i ∈ winners v log) (hj : j ∈ winners v log) : i = j := by
  have hle := (h.winners_le v).1
  match hw : winners v log with
  | [] => simp [hw] at hi
  | [k] => simp_all
  | _ :: _ :: _ => simp [hw] at hle

end Winners

/-- An exchange that has not won its value has asked for nothing but the token, the time and the change, and
can end only by refusing the value. -/
theorem RotatePath.of_not_won {p : Policy} {v : String} {xs : List Exchange}
    {c : Call (Except Fault TokenPair)} (h : RotatePath p v xs c)
    (hfind : ∀ f, ⟨.find v, .error f⟩ ∈ xs → f = .notFound "refresh token")
    (htry : ∀ a, ⟨.tryRevoke v, a⟩ ∈ xs → ∃ won, a = .ok won)
    (hwon : ⟨.tryRevoke v, .ok true⟩ ∉ xs) :
    (∀ x ∈ xs, x.request = .find v ∨ x.request = .now ∨ x.request = .tryRevoke v) ∧
      ((xs.length < 3 ∧ (c.Waits (.find v) ∨ c.Waits .now ∨ c.Waits (.tryRevoke v))) ∨
        ∃ f : TokenFault, c = .done (.error (.token f))) := by
  cases h with
  | begun hc => exact ⟨by simp, Or.inl ⟨by simp, Or.inl hc⟩⟩
  | missed f =>
    obtain rfl := hfind f (by simp)
    exact ⟨by simp, Or.inr ⟨.invalid, rfl⟩⟩
  | found t hc => exact ⟨by simp, Or.inl ⟨by simp, Or.inr (Or.inl hc)⟩⟩
  | expired t now he => exact ⟨by simp, Or.inr ⟨.expired, rfl⟩⟩
  | revoked t now he hr => exact ⟨by simp, Or.inr ⟨.revoked, rfl⟩⟩
  | usable t now hu hc => exact ⟨by simp, Or.inl ⟨by simp, Or.inr (Or.inr hc)⟩⟩
  | failed t now f hu =>
    obtain ⟨won, hf⟩ := htry (.error f) (by simp)
    cases hf
  | lost t now hu => exact ⟨by simp, Or.inr ⟨.revoked, rfl⟩⟩
  | won t now hu hc => exact absurd (by simp) hwon

theorem rotate_of_not_won (h : Operation.Run (.start s) log pool) {i : Nat} {p : Policy} {v : String}
    {c : Call (Except Fault TokenPair)} (hi : pool.calls[i]? = some ⟨.rotate p v, c⟩)
    (hwon : i ∉ winners v log) :
    (∀ x, .answered i x ∈ log → x.request = .find v ∨ x.request = .now ∨ x.request = .tryRevoke v) ∧
      (((history i log).length < 3 ∧ (c.Waits (.find v) ∨ c.Waits .now ∨ c.Waits (.tryRevoke v))) ∨
        ∃ f : TokenFault, c = .done (.error (.token f))) := by
  have hpath := rotatePath_of_reaches (h.reaches_of_start hi)
  simp only [mem_winners, ← mem_history] at hwon ⊢
  refine hpath.of_not_won (fun f hf => ?_) (fun a ha => ?_) hwon
  · exact (h.missing_of_missed (mem_history.1 hf)).1
  · exact h.tryRevoke_ok (mem_history.1 ha)

/-- An exchange that has come to a pair is the one call that won its value. -/
theorem winners_of_rotated (h : Operation.Run (.start s) log pool) {i : Nat} {p : Policy} {v : String}
    {pair : TokenPair} (hi : pool.calls[i]? = some ⟨.rotate p v, .done (.ok pair)⟩) : winners v log = [i] := by
  have hwon : i ∈ winners v log := by
    refine Decidable.byContradiction fun hwon => ?_
    obtain ⟨-, ⟨-, ⟨_, hc⟩ | ⟨_, hc⟩ | ⟨_, hc⟩⟩ | ⟨_, hc⟩⟩ := rotate_of_not_won h hi hwon <;> cases hc
  have hle := (h.winners_le v).1
  match hw : winners v log with
  | [] => simp [hw] at hwon
  | [j] => simpa [hw, eq_comm] using hwon
  | _ :: _ :: _ => simp [hw] at hle

/-- Over all the calls of a run the change from usable to revoked is made at most once for a refresh value. So
at most one exchange of it gives a pair, and none does if a withdrawal made the change; and an exchange that
has not made it draws nothing, adds nothing and has failed with its third answer at the latest, with a fault
of the token. -/
theorem refresh_value_used_once (h : Operation.Run (.start s) log pool) (v : String) :
    (winners v log).length ≤ 1 ∧
    (∀ (i j : Nat) (p q : Policy) (a b : TokenPair),
      pool.calls[i]? = some ⟨.rotate p v, .done (.ok a)⟩ →
      pool.calls[j]? = some ⟨.rotate q v, .done (.ok b)⟩ → i = j) ∧
    (∀ (i : Nat) (c : Call (Except Fault Unit)), pool.calls[i]? = some ⟨.withdraw v, c⟩ → i ∈ winners v log →
      ∀ (j : Nat) (p : Policy) (a : TokenPair), pool.calls[j]? ≠ some ⟨.rotate p v, .done (.ok a)⟩) ∧
    ∀ (i : Nat) (p : Policy) (c : Call (Except Fault TokenPair)),
      pool.calls[i]? = some ⟨.rotate p v, c⟩ → i ∉ winners v log →
      (∀ x, .answered i x ∈ log → x.request = .find v ∨ x.request = .now ∨ x.request = .tryRevoke v) ∧
      (((history i log).length < 3 ∧ (c.Waits (.find v) ∨ c.Waits .now ∨ c.Waits (.tryRevoke v))) ∨
        ∃ f : TokenFault, c = .done (.error (.token f))) := by
  refine ⟨(h.winners_le v).1, ?_, ?_, fun i p c hi hwon => rotate_of_not_won h hi hwon⟩
  · intro i j p q a b hi hj
    have hij := (winners_of_rotated h hi).symm.trans (winners_of_rotated h hj)
    simpa using hij
  · intro i c hi hwon j p a hj
    rw [winners_of_rotated h hj, List.mem_singleton] at hwon
    subst hwon
    rw [hi] at hj
    cases hj

/-- An exchange that has found its token usable comes too late when a withdrawal makes the change first. -/
theorem refresh_value_used_once_by_withdrawal : ∃ log pool,
    Operation.Run (.start .empty) log pool ∧ winners "r" log = [2] ∧
      pool.calls[1]? = some ⟨.rotate .development "r", .done (.error (.token .revoked))⟩ ∧
      ∀ (j : Nat) (p : Policy) (a : TokenPair), pool.calls[j]? ≠ some ⟨.rotate p "r", .done (.ok a)⟩ := by
  have h := (Run.nil _ : Operation.Run (.start .empty) [] _)
  have h := h.snoc (.begin _ (.issue .development (Uuid.ofNat 7)))
  have h := h.snoc (.answer (i := 0) (r := .now) default rfl rfl)
  have h := h.snoc (.answer (i := 0) (r := .freshId) (Uuid.ofNat 1) rfl rfl)
  have h := h.snoc (.answer (i := 0) (r := .freshId) (Uuid.ofNat 2) rfl rfl)
  have h := h.snoc (.answer (i := 0) (r := .freshValue 64) "r" rfl rfl)
  have h := h.snoc (.answer (i := 0) (r := .add _) (.ok ()) rfl ⟨rfl, rfl⟩)
  have h := h.snoc (.begin _ (.rotate .development "r"))
  have h := h.snoc (.begin _ (.withdraw "r"))
  have h := h.snoc (.answer (i := 1) (r := .find "r") (.ok _) rfl ⟨rfl, rfl⟩)
  have h := h.snoc (.answer (i := 2) (r := .find "r") (.ok _) rfl ⟨rfl, rfl⟩)
  have h := h.snoc (.answer (i := 1) (r := .now) default rfl rfl)
  have h := h.snoc (.answer (i := 2) (r := .now) default rfl rfl)
  have h := h.snoc (.answer (i := 2) (r := .tryRevoke "r") (.ok true) rfl ⟨rfl, rfl⟩)
  have h := h.snoc (.answer (i := 1) (r := .tryRevoke "r") (.ok false) rfl ⟨rfl, rfl⟩)
  exact ⟨_, _, h, rfl, rfl, (refresh_value_used_once h "r").2.2.1 2 _ rfl (by simp [mem_winners])⟩

end Bearer
