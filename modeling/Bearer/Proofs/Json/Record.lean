import Bearer.Json.Record
/-! The fields of a record are the members of the object, or the items of the array in the order of the
names. -/

namespace Bearer

/-- Members that are not fields do not hide one that is. -/
theorem Json.lookup_filter {names : List String} {name : String} (hname : name ∈ names)
    (members : List (String × Json)) :
    (members.filter fun m => names.contains m.1).lookup name = members.lookup name := by
  induction members with
  | nil => rfl
  | cons m members ih =>
    obtain ⟨k, v⟩ := m
    by_cases hk : name = k
    · subst hk
      simp [hname]
    · rw [List.filter_cons, List.lookup_cons, beq_false_of_ne hk, ← ih]
      split
      · rw [List.lookup_cons, beq_false_of_ne hk]
      · rfl

namespace Json.Record

theorem lookup_of_obj {names : List String} {members : List (String × Json)} {r : Record}
    (h : (obj members).record? names = some r) {name : String} (hname : name ∈ names) :
    r.fields.lookup name = members.lookup name := by
  simp only [record?] at h
  split at h
  · cases h
    exact lookup_filter hname members
  · cases h

theorem fields_of_arr {names : List String} {items : List Json} {r : Record}
    (h : (arr items).record? names = some r) : r.positional = true ∧ r.fields = names.zip items := by
  simp only [record?] at h
  split at h
  · cases h
    exact ⟨rfl, rfl⟩
  · cases h

/-- Only objects and arrays are records. -/
theorem obj_or_arr {names : List String} {j : Json} {r : Record} (h : j.record? names = some r) :
    (∃ members, j = obj members) ∨ ∃ items, j = arr items := by
  cases j with
  | obj members => exact Or.inl ⟨members, rfl⟩
  | arr items => exact Or.inr ⟨items, rfl⟩
  | _ => cases h

end Json.Record

end Bearer
