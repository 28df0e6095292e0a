import Bearer.Proofs.Pool.Run
import Bearer.Proofs.Store.Growth
/-! What a store answers in the course of a run, whatever the calls are: the store at the end extends every
earlier one, so an answer given once says something about all later stores and answers. -/

namespace Bearer.Pool

variable {ω : Type} {Result : ω → Type} {perform : (op : ω) → Call (Result op)}
  {p q : Pool RefreshStore Result} {log : List (Event ω)}

theorem Run.extends (h : Run perform RefreshStore.Replies p log q) : p.shared.Extends q.shared :=
  h.shared RefreshStore.Extends.refl (fun _ _ _ => RefreshStore.Extends.trans)
    fun _ _ _ _ => RefreshStore.Replies.extends

/-- The stores between which an answer was given. -/
theorem Run.replies_of_mem (h : Run perform RefreshStore.Replies p log q) {i : Nat} {r : Request} {a : r.Answer}
    (he : .answered i ⟨r, a⟩ ∈ log) :
    ∃ s s', p.shared.Extends s ∧ s.Replies r a s' ∧ s'.Extends q.shared := by
  obtain ⟨log₁, log₂, m, n, -, hm, hs, hn⟩ := h.of_mem he
  cases hs with
  | answer _ hi hr => exact ⟨m.shared, _, hm.extends, hr, hn.extends⟩

theorem Run.stored_of_found (h : Run perform RefreshStore.Replies p log q) {i : Nat} {v : String} {t : Token}
    (he : .answered i ⟨.find v, .ok t⟩ ∈ log) :
    q.shared.get? v = some t ∨ q.shared.get? v = some t.revoke := by
  obtain ⟨s, s', -, ⟨hr, rfl⟩, hq⟩ := h.replies_of_mem he
  exact hq v t (RefreshStore.get_eq_ok.1 hr.symm)

theorem Run.found_of_stored (h : Run perform RefreshStore.Replies p log q) {i : Nat} {v : String} {t : Token}
    (ht : p.shared.get? v = some t) {a : Except Fault Token} (he : .answered i ⟨.find v, a⟩ ∈ log) :
    a = .ok t ∨ a = .ok t.revoke := by
  obtain ⟨s, s', hs, ⟨rfl, -⟩, -⟩ := h.replies_of_mem he
  exact (hs v t ht).imp RefreshStore.get_eq_ok.2 RefreshStore.get_eq_ok.2

/-- A store that does not find a token has none with that value. -/
theorem Run.missing_of_missed (h : Run perform RefreshStore.Replies p log q) {i : Nat} {v : String} {f : Fault}
    (he : .answered i ⟨.find v, .error f⟩ ∈ log) : f = .notFound "refresh token" ∧ p.shared.get? v = none := by
  obtain ⟨s, s', hs, ⟨hr, -⟩, -⟩ := h.replies_of_mem he
  obtain ⟨hn, hf⟩ := RefreshStore.get_eq_error.1 hr.symm
  refine ⟨hf, ?_⟩
  cases hp : p.shared.get? v with
  | none => rfl
  | some t =>
    rcases hs v t hp with h | h <;>
    · rw [hn] at h
      cases h

/-- A token that was added is there at the end. -/
theorem Run.stored_of_added (h : Run perform RefreshStore.Replies p log q) {i : Nat} {t : Token}
    (he : .answered i ⟨.add t, .ok ()⟩ ∈ log) :
    q.shared.get? t.value = some t ∨ q.shared.get? t.value = some t.revoke := by
  obtain ⟨s, s', -, ⟨ha, rfl⟩, hq⟩ := h.replies_of_mem he
  apply hq
  rw [RefreshStore.get?_add s t _ (RefreshStore.add_fst_eq_ok.1 ha.symm), if_pos rfl]

/-- Every token of a store that was empty was added by a call. -/
theorem Run.added_of_stored (h : Run perform RefreshStore.Replies (start .empty) log q) {v : String} {t : Token}
    (ht : q.shared.get? v = some t) :
    ∃ i t₀, .answered i ⟨.add t₀, .ok ()⟩ ∈ log ∧ t₀.value = v ∧ t₀.user = t.user := by
  induction h generalizing t with
  | nil => rw [start, RefreshStore.get?_empty] at ht; cases ht
  | @snoc m n log e hm hs ih =>
    cases hs with
    | begin op =>
      obtain ⟨i, t₀, hadd, hv⟩ := ih ht
      exact ⟨i, t₀, List.mem_append_left _ hadd, hv⟩
    | @answer i op r next a s' hi hr =>
      cases hold : m.shared.get? v with
      | some old =>
        obtain ⟨j, t₀, hadd, hv, hu⟩ := ih hold
        refine ⟨j, t₀, List.mem_append_left _ hadd, hv, hu.trans ?_⟩
        rcases hr.extends v old hold with h | h <;>
        · rw [show s'.get? v = some t from ht] at h
          cases h
          rfl
      | none =>
        rcases hr.entry ht with ⟨old, h, -⟩ | ⟨rfl, rfl⟩
        · rw [hold] at h
          cases h
        · obtain ⟨ha, -⟩ := hr
          rw [RefreshStore.add_fst_eq_ok.2 hold] at ha
          exact ⟨i, t, List.mem_append_right _ (by rw [ha]; exact List.mem_singleton.2 rfl), rfl, rfl⟩

theorem Run.tryRevoke_ok (h : Run perform RefreshStore.Replies p log q) {i : Nat} {v : String}
    {a : Except Fault Bool} (he : .answered i ⟨.tryRevoke v, a⟩ ∈ log) : ∃ won, a = .ok won := by
  obtain ⟨s, s', -, ⟨rfl, -⟩, -⟩ := h.replies_of_mem he
  exact ⟨_, rfl⟩

/-- The calls that made the one change from usable to revoked, in the order in which they made it. -/
def winners (v : String) (log : List (Event ω)) : List Nat :=
  log.filterMap fun
    | .answered i ⟨.tryRevoke w, .ok true⟩ => if w = v then some i else none
    | _ => none

theorem mem_winners {v : String} {i : Nat} :
    i ∈ winners v log ↔ .answered i ⟨.tryRevoke v, .ok true⟩ ∈ log := by
  simp only [winners, List.mem_filterMap]
  constructor
  · rintro ⟨e, he, hx⟩
    split at hx
    · simp only [Option.ite_none_right_eq_some, Option.some.injEq] at hx
      obtain ⟨rfl, rfl⟩ := hx
      exact he
    · cases hx
  · intro h
    exact ⟨_, h, by simp⟩

end Bearer.Pool
