/-! Finite maps: pairs in the order in which their keys were first entered, no key twice. What an
operation does is said through `get?`. -/

namespace Bearer

namespace Pairs

variable {κ υ : Type} [DecidableEq κ]

/-- The value at the first pair with a key. -/
def at? (k : κ) : List (κ × υ) → Option υ
  | [] => none
  | (k', v) :: rest => if k' = k then some v else at? k rest

/-- The pairs with a key set to a value, in its place or at the end. -/
def put (k : κ) (v : υ) : List (κ × υ) → List (κ × υ)
  | [] => [(k, v)]
  | (k', v') :: rest => if k' = k then (k, v) :: rest else (k', v') :: put k v rest

theorem keys_put (k : κ) (v : υ) (xs : List (κ × υ)) :
    (put k v xs).map Prod.fst
      = if k ∈ xs.map Prod.fst then xs.map Prod.fst else xs.map Prod.fst ++ [k] := by
  induction xs with
  | nil => simp [put]
  | cons x xs ih =>
    obtain ⟨k', v'⟩ := x
    by_cases h : k' = k
    · simp [put, h]
    · have h' : ¬k = k' := fun e => h e.symm
      simp only [put, if_neg h, List.map_cons, ih, List.mem_cons, h', false_or]
      split <;> simp

theorem nodup_put (k : κ) (v : υ) {xs : List (κ × υ)} (h : (xs.map Prod.fst).Nodup) :
    ((put k v xs).map Prod.fst).Nodup := by
  rw [keys_put]
  split
  · exact h
  · rename_i hk
    rw [List.nodup_append]
    refine ⟨h, by simp, fun a ha b hb => ?_⟩
    rw [List.mem_singleton] at hb
    exact fun e => hk (hb ▸ e ▸ ha)

theorem put_of_notMem {k : κ} {xs : List (κ × υ)} (h : k ∉ xs.map Prod.fst) (v : υ) : put k v xs = xs ++ [(k, v)] := by
  induction xs with
  | nil => rfl
  | cons x xs ih =>
    rw [List.map_cons, List.mem_cons, not_or] at h
    rw [put, if_neg (Ne.symm h.1), ih h.2]
    rfl

theorem at?_put (k k' : κ) (v : υ) (xs : List (κ × υ)) :
    at? k' (put k v xs) = if k' = k then some v else at? k' xs := by
  induction xs with
  | nil =>
    by_cases h : k' = k
    · simp [put, at?, h]
    · have : ¬k = k' := fun e => h e.symm
      simp [put, at?, h, this]
  | cons x xs ih =>
    obtain ⟨a, b⟩ := x
    by_cases ha : a = k
    · by_cases h : k' = k
      · simp [put, at?, ha, h]
      · have : ¬k = k' := fun e => h e.symm
        simp [put, at?, ha, h, this]
    · by_cases h : a = k'
      · have : ¬k' = k := fun e => ha (h.trans e)
        simp [put, at?, h, this]
      · simp [put, at?, ha, h, ih]

theorem at?_eq_none (k : κ) (xs : List (κ × υ)) (h : k ∉ xs.map Prod.fst) : at? k xs = none := by
  induction xs with
  | nil => rfl
  | cons x xs ih =>
    rw [List.map_cons, List.mem_cons, not_or] at h
    rw [at?, if_neg fun e => h.1 e.symm]
    exact ih h.2

/-- With text for keys, this is what the library looks up. -/
theorem lookup_eq_at? (k : String) (xs : List (String × υ)) : xs.lookup k = at? k xs := by
  induction xs with
  | nil => rfl
  | cons x xs ih =>
    obtain ⟨a, v⟩ := x
    by_cases ha : a = k
    · simp [at?, ha]
    · rw [at?, if_neg ha, List.lookup_cons, beq_false_of_ne (Ne.symm ha), ih]

theorem at?_filter_keys (k k' : κ) (xs : List (κ × υ)) :
    at? k' (xs.filter fun e => e.1 ≠ k) = if k' = k then none else at? k' xs := by
  induction xs with
  | nil => simp [at?]
  | cons x xs ih =>
    obtain ⟨a, b⟩ := x
    rw [List.filter_cons]
    by_cases ha : a = k
    · subst ha
      simp only [ne_eq, not_true_eq_false, decide_false, Bool.false_eq_true, if_false]
      simp only [ne_eq] at ih
      rw [ih]
      by_cases h : k' = a
      · simp [h]
      · rw [if_neg h, if_neg h, at?, if_neg fun e => h e.symm]
    · simp only [ne_eq, ha, not_false_eq_true, decide_true, if_true, at?]
      simp only [ne_eq] at ih
      rw [ih]
      by_cases h : a = k'
      · subst h
        simp [ha]
      · simp [h]

theorem at?_filter_values (keep : υ → Bool) (k : κ) (xs : List (κ × υ))
    (h : (xs.map Prod.fst).Nodup) :
    at? k (xs.filter fun e => keep e.2) = (at? k xs).filter keep := by
  induction xs with
  | nil => rfl
  | cons x xs ih =>
    obtain ⟨a, b⟩ := x
    rw [List.map_cons, List.nodup_cons] at h
    rw [List.filter_cons]
    by_cases ha : a = k
    · subst ha
      by_cases hb : keep b = true
      · simp [hb, at?, Option.filter]
      · have := at?_eq_none a xs h.1
        simp [hb, at?, ih h.2, this, Option.filter]
    · by_cases hb : keep b = true
      · simp [hb, at?, ha, ih h.2]
      · simp [hb, at?, ha, ih h.2]

end Pairs

structure Table (κ υ : Type) where
  entries : List (κ × υ)
  nodup : (entries.map Prod.fst).Nodup

namespace Table

variable {κ υ : Type}

def empty : Table κ υ := ⟨[], List.nodup_nil⟩

instance : Inhabited (Table κ υ) := ⟨empty⟩

def size (t : Table κ υ) : Nat := t.entries.length

variable [DecidableEq κ]

def get? (t : Table κ υ) (k : κ) : Option υ := Pairs.at? k t.entries

def insert (t : Table κ υ) (k : κ) (v : υ) : Table κ υ where
  entries := Pairs.put k v t.entries
  nodup := Pairs.nodup_put k v t.nodup

/-- Keeps the entries whose value passes a test. -/
def filter (t : Table κ υ) (keep : υ → Bool) : Table κ υ where
  entries := t.entries.filter fun e => keep e.2
  nodup := t.nodup.sublist ((List.filter_sublist).map Prod.fst)

def erase (t : Table κ υ) (k : κ) : Table κ υ where
  entries := t.entries.filter fun e => e.1 ≠ k
  nodup := t.nodup.sublist ((List.filter_sublist).map Prod.fst)

def ofList (xs : List (κ × υ)) : Table κ υ := xs.foldl (fun t x => t.insert x.1 x.2) empty

@[simp] theorem get?_empty (k : κ) : (empty : Table κ υ).get? k = none := rfl

theorem get?_insert (t : Table κ υ) (k k' : κ) (v : υ) :
    (t.insert k v).get? k' = if k' = k then some v else t.get? k' :=
  Pairs.at?_put k k' v t.entries

theorem get?_erase (t : Table κ υ) (k k' : κ) :
    (t.erase k).get? k' = if k' = k then none else t.get? k' :=
  Pairs.at?_filter_keys k k' t.entries

theorem get?_filter (t : Table κ υ) (keep : υ → Bool) (k : κ) :
    (t.filter keep).get? k = (t.get? k).filter keep :=
  Pairs.at?_filter_values keep k t.entries t.nodup

end Table

end Bearer
