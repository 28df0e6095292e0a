import Bearer.Cache.Shelf
/-! What a shelf gives is an entry that has not ended, and what it holds was held before or has just been
set. -/

namespace Bearer.Shelf

theorem get_eq_some {s : Shelf} {now : Instant} {key text : String} :
    s.get now key = some text ↔ ∃ e, s.entries.get? key = some e ∧ now < e.expiresAt ∧ e.text = text := by
  simp only [get, Option.map_eq_some_iff, Option.filter_eq_some_iff, Entry.isLive, decide_eq_true_eq, and_assoc]

/-- An entry ends a span after the time at which it is written. -/
theorem expiry_eq_ok {now t : Instant} {ttl : Ttl} (h : expiry now ttl = .ok t) : t.nanos = now.nanos + ttl.nanos := by
  unfold expiry at h
  split at h
  · cases h
  · next d hd =>
    split at h
    · cases h
    · next t' ht =>
      cases h
      rw [Instant.add?_eq_some.1 ht, Duration.ofNanos?_eq_some.1 hd]

theorem set_of_expiry {now t : Instant} {ttl : Ttl} (h : expiry now ttl = .ok t) (s : Shelf) (key text : String) :
    s.set now key text ttl = (.ok (), ⟨(s.entries.filter (Entry.isLive now)).insert key ⟨text, t⟩⟩) := by
  rw [set, h]

/-- What has been set is found until it ends. -/
theorem get_set {now now' t : Instant} {ttl : Ttl} (h : expiry now ttl = .ok t) (hlive : now' < t) (s : Shelf)
    (key text : String) : (s.set now key text ttl).2.get now' key = some text := by
  rw [set_of_expiry h, get_eq_some]
  exact ⟨⟨text, t⟩, by rw [Table.get?_insert, if_pos rfl], hlive, rfl⟩

/-- Setting puts nothing on the shelf but the entry that it says. -/
theorem entry_of_set {s : Shelf} {now : Instant} {key text : String} {ttl : Ttl} {k : String} {e : Entry}
    (h : (s.set now key text ttl).2.entries.get? k = some e) :
    s.entries.get? k = some e ∨
      k = key ∧ (s.set now key text ttl).1 = .ok () ∧ e.text = text ∧ e.expiresAt.nanos = now.nanos + ttl.nanos := by
  cases ht : expiry now ttl with
  | error f =>
    rw [set, ht] at h
    exact Or.inl h
  | ok t =>
    rw [set_of_expiry ht, Table.get?_insert, Table.get?_filter] at h
    split at h
    · next hk =>
      cases h
      exact Or.inr ⟨hk, by rw [set_of_expiry ht], rfl, expiry_eq_ok ht⟩
    · exact Or.inl (Option.filter_eq_some_iff.1 h).1

/-- Whether an entry is set depends on nothing that is on the shelf. -/
theorem fst_set (s s' : Shelf) (now : Instant) (key text : String) (ttl : Ttl) :
    (s.set now key text ttl).1 = (s'.set now key text ttl).1 := by
  unfold set
  cases expiry now ttl <;> rfl

/-- From the time of a write on, no other key shows that anything was written. What has been swept away had ended. -/
theorem get_set_of_ne {s : Shelf} {now later : Instant} (h : now ≤ later) {key k : String} (hk : k ≠ key)
    (text : String) (ttl : Ttl) : (s.set now key text ttl).2.get later k = s.get later k := by
  cases ht : expiry now ttl with
  | error f => rw [set, ht]
  | ok t =>
    have hlive : ∀ e : Entry, (e.isLive now && e.isLive later) = e.isLive later := by
      intro e
      have hle : decide (later < e.expiresAt) = true → decide (now < e.expiresAt) = true := fun hlater =>
        decide_eq_true (Int.lt_of_le_of_lt h (of_decide_eq_true hlater))
      cases hlater : e.isLive later with
      | false => rw [Bool.and_false]
      | true => rw [show e.isLive now = true from hle hlater, Bool.and_self]
    rw [set_of_expiry ht, get, Table.get?_insert, if_neg hk, Table.get?_filter, Option.filter_filter]
    simp only [hlive]
    rfl

end Bearer.Shelf
