import Bearer.Proofs.Pool.Answers
import Bearer.Proofs.Pool.Operation
/-! A withdrawal is final. Whichever way it came to its end, the value was then revoked, or it had expired at
a time that was read before; and as long as the clock does not go back, whoever presents the value later
finds one or the other. -/

namespace Bearer

open Pool

variable {s : RefreshStore} {log₁ log₂ : List (Event Operation)}
  {pool₁ pool₂ : Pool RefreshStore Operation.Outcome}

/-- The times that were read, in the order of the readings. -/
def Pool.readings {ω : Type} (log : List (Event ω)) : List Instant :=
  log.filterMap fun
    | .answered _ ⟨.now, t⟩ => some t
    | _ => none

theorem mem_readings {ω : Type} {log : List (Event ω)} {i : Nat} {t : Instant}
    (h : .answered i ⟨.now, t⟩ ∈ log) : t ∈ readings log :=
  List.mem_filterMap.2 ⟨_, h, rfl⟩

theorem le_of_readings {ω : Type} {log₁ log₂ : List (Event ω)} {t u : Instant}
    (h : (readings (log₁ ++ log₂)).Pairwise (· ≤ ·)) (ht : t ∈ readings log₁) (hu : u ∈ readings log₂) :
    t ≤ u := by
  rw [readings, List.filterMap_append, List.pairwise_append] at h
  exact h.2.2 t ht u hu

/-- The value is of no more use: it is revoked, or the time of its expiry has been read. -/
def Dead (s : RefreshStore) (times : List Instant) (v : String) : Prop :=
  ∃ t, s.get? v = some t ∧ (t.revoked = true ∨ ∃ now ∈ times, t.isExpired now = true)

theorem dead_of_isRevoked {s : RefreshStore} {v : String} (times : List Instant) (h : s.IsRevoked v) :
    Dead s times v := by
  obtain ⟨t, ht, hr⟩ := h
  exact ⟨t, ht, Or.inl hr⟩

/-- A withdrawal tries to revoke what it has found, so that the value is revoked from then on. -/
theorem isRevoked_of_tried (h : Operation.Run (.start s) log₁ pool₁) {i : Nat} {v : String} {won : Bool}
    {c : Call (Except Fault Unit)} (hi : pool₁.calls[i]? = some ⟨.withdraw v, c⟩)
    (htry : .answered i ⟨.tryRevoke v, .ok won⟩ ∈ log₁) : pool₁.shared.IsRevoked v := by
  obtain ⟨before, after, m, n, -, hm, hs, hn⟩ := h.of_mem htry
  have hlater := ((Run.nil m).snoc hs).trans hn
  cases hs with
  | answer _ hj hr =>
    obtain ⟨d, hd⟩ := hlater.kept hj
    rw [hi] at hd
    cases hd
    have hpath := withdrawPath_of_reaches (hm.reaches_of_start hj)
    generalize hxs : history i before = xs at hpath
    cases hpath with
    | begun hc => obtain ⟨_, hc⟩ := hc; cases hc
    | found t hc => obtain ⟨_, hc⟩ := hc; cases hc
    | usable t now hu hc =>
      obtain ⟨-, rfl⟩ := hr
      have hfind : .answered i ⟨.find v, .ok t⟩ ∈ before := mem_history.1 (by rw [hxs]; simp)
      have hrev : (m.shared.tryRevoke v).2.IsRevoked v := by
        rcases hm.stored_of_found hfind with ht | ht <;> exact RefreshStore.isRevoked_tryRevoke ht
      exact hrev.mono hn.extends

/-- All three ways in which a withdrawal comes to its end leave the value dead. -/
theorem dead_of_withdrawn (h : Operation.Run (.start s) log₁ pool₁) {i : Nat} {v : String}
    (hi : pool₁.calls[i]? = some ⟨.withdraw v, .done (.ok ())⟩) :
    Dead pool₁.shared (readings log₁) v := by
  have hpath := withdrawPath_of_reaches (h.reaches_of_start hi)
  generalize hxs : history i log₁ = xs at hpath
  cases hpath with
  | begun hc => obtain ⟨_, hc⟩ := hc; cases hc
  | found t hc => obtain ⟨_, hc⟩ := hc; cases hc
  | usable t now hu hc => obtain ⟨_, hc⟩ := hc; cases hc
  | settled t now hu =>
    have hfind : .answered i ⟨.find v, .ok t⟩ ∈ log₁ := mem_history.1 (by simp [hxs])
    have hnow : .answered i ⟨.now, now⟩ ∈ log₁ := mem_history.1 (by simp [hxs])
    have hused := (Token.isUsable_eq_false.1 hu).symm
    rcases h.stored_of_found hfind with ht | ht
    · exact ⟨t, ht, hused.imp id fun he => ⟨now, mem_readings hnow, he⟩⟩
    · exact ⟨t.revoke, ht, Or.inl rfl⟩
  | tried t now won hu =>
    have htry : .answered i ⟨.tryRevoke v, .ok won⟩ ∈ log₁ := mem_history.1 (by simp [hxs])
    exact dead_of_isRevoked _ (isRevoked_of_tried h hi htry)

/-- A dead token is not usable at any later time, in whichever state it is found. -/
theorem not_usable_of_dead {t t' : Token} {now : Instant} {times : List Instant}
    (hdead : t.revoked = true ∨ ∃ u ∈ times, t.isExpired u = true) (hle : ∀ u ∈ times, u ≤ now)
    (ht' : t' = t ∨ t' = t.revoke) : t'.isUsable now = false := by
  rcases hdead with hr | ⟨u, hu, he⟩
  · have : t'.revoked = true := by rcases ht' with rfl | rfl <;> simp [hr, Token.revoke]
    simp [Token.isUsable, this]
  · have he' : t'.isExpired u = true := by rcases ht' with rfl | rfl <;> exact he
    have he' := Token.isExpired_mono he' (hle u hu)
    exact Token.isUsable_eq_false.2 (Or.inl he')

/-- An exchange that finds a token which is not usable stops at the time. -/
theorem RotatePath.of_not_usable {p : Policy} {v : String} {xs : List Exchange}
    {c : Call (Except Fault TokenPair)} (h : RotatePath p v xs c)
    (hfind : ∀ f, ⟨.find v, .error f⟩ ∉ xs)
    (hdead : ∀ t now, ⟨.find v, .ok t⟩ ∈ xs → ⟨.now, now⟩ ∈ xs → t.isUsable now = false) :
    (xs.length < 2 ∧ (c.Waits (.find v) ∨ c.Waits .now)) ∨
      c = .done (.error (.token .expired)) ∨ c = .done (.error (.token .revoked)) := by
  have contra {t : Token} {now : Instant} {q : Prop} (hu : t.isUsable now = true)
      (ht : ⟨.find v, .ok t⟩ ∈ xs) (hn : ⟨.now, now⟩ ∈ xs) : q := by
    rw [hdead t now ht hn] at hu
    cases hu
  cases h with
  | begun hc => exact Or.inl ⟨by simp, Or.inl hc⟩
  | missed f => exact absurd (by simp) (hfind f)
  | found t hc => exact Or.inl ⟨by simp, Or.inr hc⟩
  | expired t now he => exact Or.inr (Or.inl rfl)
  | revoked t now he hr => exact Or.inr (Or.inr rfl)
  | usable t now hu hc => exact contra hu (by simp) (by simp)
  | failed t now f hu => exact contra hu (by simp) (by simp)
  | lost t now hu => exact contra hu (by simp) (by simp)
  | won t now hu hc => exact contra hu (by simp) (by simp)

/-- Once a withdrawal of a refresh value has come to its end, every exchange of the value that has had no answer
by then asks for the token and the time and has failed with the second answer, the token being expired or
revoked, whatever runs besides. -/
theorem withdrawal_is_final (h₁ : Operation.Run (.start s) log₁ pool₁) (h₂ : Operation.Run pool₁ log₂ pool₂)
    (hclock : (readings (log₁ ++ log₂)).Pairwise (· ≤ ·)) {i j : Nat} {p : Policy} {v : String}
    {c : Call (Except Fault TokenPair)} (hi : pool₁.calls[i]? = some ⟨.withdraw v, .done (.ok ())⟩)
    (hj : pool₂.calls[j]? = some ⟨.rotate p v, c⟩) (hlater : history j log₁ = []) :
    ((history j log₂).length < 2 ∧ (c.Waits (.find v) ∨ c.Waits .now)) ∨
      c = .done (.error (.token .expired)) ∨ c = .done (.error (.token .revoked)) := by
  obtain ⟨t, ht, hdead⟩ := dead_of_withdrawn h₁ hi
  have hreach := (h₁.trans h₂).reaches_of_start hj
  rw [history_append, hlater, List.nil_append] at hreach
  refine (rotatePath_of_reaches hreach).of_not_usable (fun f hf => ?_) (fun t' now hf hn => ?_)
  · have := (h₂.missing_of_missed (mem_history.1 hf)).2
    rw [ht] at this
    cases this
  · have hle : ∀ u ∈ readings log₁, u ≤ now :=
      fun u hu => le_of_readings hclock hu (mem_readings (mem_history.1 hn))
    have ht' := h₂.found_of_stored ht (mem_history.1 hf)
    exact not_usable_of_dead hdead hle (by simpa using ht')

/-- A withdrawal that finds its token expired changes nothing, and the value is as dead as any. -/
theorem withdrawal_is_final_without_change : ∃ (t : Token) (log₁ log₂ : _) (pool₁ pool₂ : _),
    Operation.Run (.start (RefreshStore.empty.add t).2) log₁ pool₁ ∧ Operation.Run pool₁ log₂ pool₂ ∧
      pool₁.calls[0]? = some ⟨.withdraw "r", .done (.ok ())⟩ ∧ pool₁.shared.get? "r" = some t ∧
      t.revoked = false ∧ ∃ c, pool₂.calls[1]? = some ⟨.rotate .development "r", c⟩ ∧
        (c = .done (.error (.token .expired)) ∨ c = .done (.error (.token .revoked))) := by
  have h₁ := (Run.nil _ : Operation.Run
    (.start (RefreshStore.empty.add ⟨Uuid.ofNat 1, Uuid.ofNat 7, "r", .refresh, default, default, false⟩).2) [] _)
  have h₁ := h₁.snoc (.begin _ (.withdraw "r"))
  have h₁ := h₁.snoc (.answer (i := 0) (r := .find "r") (.ok _) rfl ⟨rfl, rfl⟩)
  have h₁ := h₁.snoc (.answer (i := 0) (r := .now) default rfl rfl)
  have h₂ := h₁.onward.snoc (.begin _ (.rotate .development "r"))
  have h₂ := h₂.snoc (.answer (i := 1) (r := .find "r") (.ok _) rfl ⟨rfl, rfl⟩)
  have h₂ := h₂.snoc (.answer (i := 1) (r := .now) default rfl rfl)
  have hfinal := withdrawal_is_final h₁ h₂ (by decide) (i := 0) (j := 1) rfl rfl rfl
  refine ⟨_, _, _, _, _, h₁, h₂, rfl, rfl, rfl, _, rfl, hfinal.resolve_left ?_⟩
  rintro ⟨hlt, -⟩
  exact absurd hlt (by decide)

end Bearer
