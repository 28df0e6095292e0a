import Bearer.Proofs.Store.Growth
/-! Two stores of which one is ahead of the other by the revocation of certain values. Under either the same
values are stored, in the same order, so once the other has caught up they are the same store. -/

namespace Bearer

theorem Pairs.eq_of_at? {κ υ : Type} [DecidableEq κ] {xs ys : List (κ × υ)} (hnodup : (xs.map Prod.fst).Nodup)
    (hkeys : xs.map Prod.fst = ys.map Prod.fst) (h : ∀ k, at? k xs = at? k ys) : xs = ys := by
  induction xs generalizing ys with
  | nil => exact (List.map_eq_nil_iff.1 hkeys.symm).symm
  | cons x xs ih =>
    obtain ⟨k, v⟩ := x
    cases ys with
    | nil => simp at hkeys
    | cons y ys =>
      obtain ⟨k', w⟩ := y
      simp only [List.map_cons, List.nodup_cons, List.cons.injEq] at hnodup hkeys
      obtain ⟨rfl, hrest⟩ := hkeys
      have hv : v = w := by simpa [at?] using h k
      have hxs : xs = ys := by
        refine ih hnodup.2 hrest fun k' => ?_
        by_cases hk : k = k'
        · subst hk
          rw [at?_eq_none k xs hnodup.1, at?_eq_none k ys (hrest ▸ hnodup.1)]
        · simpa [at?, hk] using h k'
      rw [hv, hxs]

theorem Pairs.mem_keys {κ υ : Type} [DecidableEq κ] {k : κ} {xs : List (κ × υ)} :
    k ∈ xs.map Prod.fst ↔ (at? k xs).isSome := by
  induction xs with
  | nil => simp [at?]
  | cons x xs ih =>
    obtain ⟨k', v⟩ := x
    by_cases hk : k' = k
    · simp [at?, hk]
    · have hk' : ¬k = k' := fun e => hk e.symm
      simp only [List.map_cons, List.mem_cons, hk', false_or, at?, if_neg hk, ih]

namespace RefreshStore

/-- The values that are stored, in the order in which they were added. -/
def keys (s : RefreshStore) : List String := s.tokens.entries.map Prod.fst

theorem mem_keys {s : RefreshStore} {v : String} : v ∈ s.keys ↔ (s.get? v).isSome := Pairs.mem_keys

theorem ext_get? {s s' : RefreshStore} (hkeys : s.keys = s'.keys) (h : ∀ v, s.get? v = s'.get? v) : s = s' := by
  obtain ⟨⟨xs, hxs⟩⟩ := s
  obtain ⟨⟨ys, hys⟩⟩ := s'
  obtain rfl : xs = ys := Pairs.eq_of_at? hxs hkeys h
  rfl

theorem keys_add (s : RefreshStore) (t : Token) :
    (s.add t).2.keys = if t.value ∈ s.keys then s.keys else s.keys ++ [t.value] := by
  cases h : s.get? t.value with
  | some old => rw [add_of_stored s t old h, if_pos (mem_keys.2 (by simp [h]))]
  | none =>
    simp only [add, h]
    exact Pairs.keys_put t.value t s.tokens.entries

theorem keys_tryRevoke (s : RefreshStore) (v : String) : (s.tryRevoke v).2.keys = s.keys := by
  unfold tryRevoke
  cases h : s.get? v with
  | none => rfl
  | some t =>
    dsimp only
    split
    · rfl
    · exact (Pairs.keys_put v t.revoke s.tokens.entries).trans (if_pos (mem_keys.2 (by simp [h])))

/-- The one store is the other with these values revoked besides. -/
structure Ahead (s t : RefreshStore) (vs : List String) : Prop where
  keys : s.keys = t.keys
  get? : ∀ v, s.get? v = if v ∈ vs then (t.get? v).map Token.revoke else t.get? v

namespace Ahead

variable {s t : RefreshStore} {v : String} {vs : List String}

theorem refl (s : RefreshStore) : s.Ahead s [] := ⟨rfl, fun v => by simp⟩

theorem eq (h : s.Ahead t []) : s = t := ext_get? h.keys fun v => by simpa using h.get? v

theorem congr {ws : List String} (h : s.Ahead t vs) (hw : ∀ v, v ∈ vs ↔ v ∈ ws) : s.Ahead t ws :=
  ⟨h.keys, fun v => by simp only [h.get? v, hw v]⟩

theorem get?_eq_none (h : s.Ahead t vs) : s.get? v = none ↔ t.get? v = none := by
  rw [h.get? v]
  split <;> simp

theorem get?_of_some (h : s.Ahead t vs) {token : Token} (hs : s.get? v = some token) :
    ∃ token', t.get? v = some token' ∧ (token = token' ∨ token = token'.revoke) := by
  rw [h.get? v] at hs
  split at hs
  · obtain ⟨token', ht, rfl⟩ := Option.map_eq_some_iff.1 hs
    exact ⟨token', ht, Or.inr rfl⟩
  · exact ⟨token, hs, Or.inl rfl⟩

theorem expired (h : s.Ahead t vs) {token : Token} {now : Instant} (hs : s.get? v = some token)
    (he : token.isExpired now = true) : ∃ token', t.get? v = some token' ∧ token'.isExpired now = true := by
  obtain ⟨token', ht, rfl | rfl⟩ := h.get?_of_some hs
  · exact ⟨_, ht, he⟩
  · exact ⟨_, ht, he⟩

/-- A token that is not revoked in the store ahead is there in the other one too. -/
theorem get?_of_fresh (h : s.Ahead t vs) {token : Token} (hs : s.get? v = some token)
    (hfresh : token.revoked = false) : v ∉ vs ∧ t.get? v = some token := by
  rw [h.get? v] at hs
  split at hs
  · obtain ⟨token', _, rfl⟩ := Option.map_eq_some_iff.1 hs
    cases hfresh
  · next hv => exact ⟨hv, hs⟩

theorem run_ahead (h : s.Ahead t vs) (v : String) : (s.tryRevoke v).2.Ahead t (v :: vs) := by
  refine ⟨(keys_tryRevoke s v).trans h.keys, fun w => ?_⟩
  rw [get?_tryRevoke, h.get? w]
  by_cases hw : w = v
  · subst hw
    by_cases hvs : w ∈ vs <;> simp [hvs, Function.comp_def]
  · simp [hw]

theorem catch_up (h : s.Ahead t (v :: vs)) (hv : v ∉ vs) : s.Ahead (t.tryRevoke v).2 vs := by
  refine ⟨h.keys.trans (keys_tryRevoke t v).symm, fun w => ?_⟩
  rw [get?_tryRevoke, h.get? w]
  by_cases hw : w = v <;> simp [hw, hv]

/-- To both the same tokens can be added. -/
theorem add (h : s.Ahead t vs) (hvs : ∀ v ∈ vs, v ∈ t.keys) (token : Token) :
    (s.add token).1 = (t.add token).1 ∧ (s.add token).2.Ahead (t.add token).2 vs := by
  cases ht : t.get? token.value with
  | some old =>
    have hmem : token.value ∈ t.keys := mem_keys.2 (by simp [ht])
    rw [← h.keys, mem_keys] at hmem
    obtain ⟨old', hs⟩ := Option.isSome_iff_exists.1 hmem
    rw [add_of_stored t token old ht, add_of_stored s token old' hs]
    exact ⟨rfl, h⟩
  | none =>
    have hs := h.get?_eq_none.2 ht
    refine ⟨(add_fst_eq_ok.2 hs).trans (add_fst_eq_ok.2 ht).symm, ?_, fun w => ?_⟩
    · rw [keys_add, keys_add, h.keys]
    · rw [get?_add s token w hs, get?_add t token w ht, h.get? w]
      by_cases hw : w = token.value
      · have hnew : w ∉ vs := fun hmem => by
          have := mem_keys.1 (hvs w hmem)
          rw [hw, ht] at this
          cases this
        simp [hw, hw ▸ hnew]
      · simp [hw]

end Ahead

end RefreshStore

end Bearer
