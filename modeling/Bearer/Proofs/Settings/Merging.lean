import Bearer.Settings.Path
/-! What is found behind keys when values are layered. Merging a value into another looks, behind each row of keys,
like merging what the two have there, as long as the new one has tables on the way; and setting a path changes nothing
behind keys from which the path parts at a key. -/

namespace Bearer.Settings

namespace Value

/-- What is behind some keys, each of which leads into the table before it. -/
def at? : List String → Value → Option Value
  | [], v => some v
  | k :: ks, v => (Pairs.at? k v.entries).bind (at? ks)

theorem at?_append (ks ks' : List String) (v : Value) : at? (ks ++ ks') v = (at? ks v).bind (at? ks') := by
  induction ks generalizing v with
  | nil => rfl
  | cons k ks ih =>
    show (Pairs.at? k v.entries).bind (at? (ks ++ ks')) = ((Pairs.at? k v.entries).bind (at? ks)).bind (at? ks')
    cases Pairs.at? k v.entries with
    | none => rfl
    | some w => exact ih w

def isTable : Value → Bool
  | table _ => true
  | _ => false

theorem at?_cons_of_not_isTable {v : Value} (h : v.isTable = false) (k : String) (ks : List String) :
    at? (k :: ks) v = none := by
  cases v <;> first | rfl | cases h

/-- What a key has when a value was set under it. -/
def merge (old : Option Value) : Value → Value
  | table [] => old.getD (table [])
  | table (e :: es) => table (setKeys (old.getD nil).entries (e :: es))
  | v => v

theorem merge_of_not_isTable {v : Value} (h : v.isTable = false) (old : Option Value) : merge old v = v := by
  cases v <;> first | rfl | cases h

/-- What a key has when perhaps a value was set under it. -/
def overlay (old : Option Value) : Option Value → Option Value
  | none => old
  | some v => some (merge old v)

theorem at?_setKey (es : Entries) (k k' : String) (v : Value) :
    Pairs.at? k' (setKey es k v) = if k' = k then some (merge (Pairs.at? k es) v) else Pairs.at? k' es := by
  have hput (w : Value) := Pairs.at?_put k k' w es
  cases v with
  | table vs =>
    cases vs with
    | nil =>
      cases hold : Pairs.at? k es with
      | none => simp [setKey, hold, hput, merge]
      | some old =>
        by_cases hk : k' = k
        · simp [setKey, hold, merge, hk]
        · simp [setKey, hold, hk]
    | cons e vs => simp [setKey, hput, merge]
  | _ => simp [setKey, hput, merge]

/-- Setting the keys of a table, each of them once. -/
theorem at?_setKeys {vs : Entries} (hvs : (vs.map Prod.fst).Nodup) (es : Entries) (k : String) :
    Pairs.at? k (setKeys es vs) = overlay (Pairs.at? k es) (Pairs.at? k vs) := by
  induction vs generalizing es with
  | nil => rfl
  | cons e vs ih =>
    obtain ⟨a, v⟩ := e
    rw [List.map_cons, List.nodup_cons] at hvs
    rw [setKeys, ih hvs.2, at?_setKey, Pairs.at?]
    by_cases ha : a = k
    · subst ha
      rw [if_pos rfl, if_pos rfl, Pairs.at?_eq_none a vs hvs.1]
      rfl
    · rw [if_neg (Ne.symm ha), if_neg ha]

theorem keys_setKey {es : Entries} {k : String} (hk : k ∉ es.map Prod.fst) (v : Value) :
    (setKey es k v).map Prod.fst = es.map Prod.fst ++ [k] := by
  have hput (w : Value) : (Pairs.put k w es).map Prod.fst = es.map Prod.fst ++ [k] := by
    rw [Pairs.keys_put, if_neg hk]
  cases v with
  | table vs =>
    cases vs with
    | nil => simp [setKey, Pairs.at?_eq_none k es hk, hput]
    | cons e vs => simp [setKey, hput]
  | _ => simp [setKey, hput]

theorem keys_setKeys {vs : Entries} (es : Entries) (h : (es.map Prod.fst ++ vs.map Prod.fst).Nodup) :
    (setKeys es vs).map Prod.fst = es.map Prod.fst ++ vs.map Prod.fst := by
  induction vs generalizing es with
  | nil => simp [setKeys]
  | cons e vs ih =>
    obtain ⟨k, v⟩ := e
    have hk : k ∉ es.map Prod.fst := fun hmem => List.nodup_append.1 h |>.2.2 k hmem k (by simp) rfl
    have hkeys := keys_setKey hk v
    rw [setKeys, ih _ (by rw [hkeys]; simpa using h), hkeys, List.append_assoc]
    rfl

/-- There are tables on the way behind some keys, and none of them has a key twice. -/
def Leads : List String → Value → Prop
  | [], _ => True
  | k :: ks, v => ∃ es, v = table es ∧ (es.map Prod.fst).Nodup ∧ ∀ w, Pairs.at? k es = some w → Leads ks w

/-- Merging goes on behind the keys of the new value. -/
theorem at?_merge {ks : List String} {v : Value} (hv : Leads ks v) (old : Option Value) :
    at? ks (merge old v) = overlay (old.bind (at? ks)) (at? ks v) := by
  induction ks generalizing old v with
  | nil => rw [show old.bind (at? []) = old by cases old <;> rfl]; rfl
  | cons k ks ih =>
    obtain ⟨es, rfl, hes, hnext⟩ := hv
    cases es with
    | nil => cases old <;> rfl
    | cons e es =>
      have hold : Pairs.at? k (old.getD nil).entries = old.bind fun o => Pairs.at? k o.entries := by
        cases old <;> rfl
      have hbind : (old.bind fun o => Pairs.at? k o.entries).bind (at? ks) = old.bind (at? (k :: ks)) := by
        cases old <;> rfl
      show (Pairs.at? k (setKeys (old.getD nil).entries (e :: es))).bind (at? ks) = _
      rw [at?_setKeys hes, hold, ← hbind]
      show _ = overlay _ ((Pairs.at? k (e :: es)).bind (at? ks))
      cases hw : Pairs.at? k (e :: es) with
      | none => rfl
      | some w => exact ih (hnext w hw) _

end Value

open Value

namespace Path

/-- All steps, that to the first key included. -/
def all (p : Path) : List Step := .key p.head :: p.steps

/-- The steps part from some keys at a key. -/
def Apart : List Step → List String → Prop
  | .key k :: steps, n :: ks => k ≠ n ∨ Apart steps ks
  | _, _ => False

instance decidableApart : ∀ (steps : List Step) (ks : List String), Decidable (Apart steps ks)
  | .key k :: steps, n :: ks =>
    have := decidableApart steps ks
    inferInstanceAs (Decidable (k ≠ n ∨ Apart steps ks))
  | .item _ :: _, _ => .isFalse id
  | .key _ :: _, [] => .isFalse id
  | [], _ => .isFalse id

/-- Keys part from others if neither begin with the others. -/
theorem apart_map_key (ks ks' : List String) : Apart (ks.map .key) ks' ↔ ¬ks <+: ks' ∧ ¬ks' <+: ks := by
  induction ks generalizing ks' with
  | nil => simp [Apart]
  | cons k ks ih =>
    cases ks' with
    | nil => simp [Apart]
    | cons n ks' =>
      rw [List.map_cons, Apart, ih, List.cons_prefix_cons, List.cons_prefix_cons]
      by_cases hk : k = n
      · simp [hk]
      · simp [hk, Ne.symm hk]

theorem not_apart_nil (steps : List Step) : ¬Apart steps [] := by
  rcases steps with _ | ⟨_ | _, _⟩ <;> exact id

theorem exists_last (p : Path) : ∃ steps last, p.all = steps ++ [last] := by
  rcases List.eq_nil_or_concat p.all with h | ⟨steps, last, h⟩
  · cases h
  · exact ⟨steps, last, by rw [h, List.concat_eq_append]⟩

/-- Setting a path changes what its last step leads out of. -/
theorem table_set {p : Path} {steps : List Step} {last : Step} (h : p.all = steps ++ [last]) (v : Value)
    (es : Entries) : table (p.set v es) = change (setStep v last) steps (table es) := by
  obtain ⟨head, ps⟩ := p
  rcases List.eq_nil_or_concat ps with rfl | ⟨init, l, rfl⟩
  · obtain ⟨rfl, hlast⟩ := List.append_inj' (show [] ++ [Step.key head] = steps ++ [last] from h) rfl
    cases hlast
    rfl
  · rw [List.concat_eq_append] at h ⊢
    obtain ⟨rfl, hlast⟩ := List.append_inj' (show (Step.key head :: init) ++ [l] = steps ++ [last] from h) rfl
    cases hlast
    simp only [set, List.getLast?_concat, List.dropLast_concat]
    rfl

/-- What a missing value is taken for has nothing behind it. -/
theorem at?_getD_nil (k : String) (ks : List String) (o : Option Value) :
    at? (ks ++ [k]) (o.getD nil) = o.bind (at? (ks ++ [k])) := by
  cases o with
  | none => cases ks <;> rfl
  | some v => rfl

/-- The value is merged into what is at the end of the keys. -/
theorem at?_change_self (v : Value) (ks : List String) (k : String) (w : Value) :
    at? (ks ++ [k]) (change (setStep v (.key k)) (ks.map .key) w) = some (merge (at? (ks ++ [k]) w) v) := by
  induction ks generalizing w with
  | nil =>
    have hset := at?_setKey w.entries k k v
    rw [if_pos rfl] at hset
    show (Pairs.at? k (setKey w.entries k v)).bind some = some (merge ((Pairs.at? k w.entries).bind some) v)
    rw [hset, Option.bind_some, Option.bind_fun_some]
  | cons n ks ih =>
    show (Pairs.at? n (Pairs.put n (change _ (ks.map .key) ((Pairs.at? n w.entries).getD nil)) w.entries)).bind
      (at? (ks ++ [k])) = _
    rw [Pairs.at?_put, if_pos rfl, Option.bind_some, ih, at?_getD_nil]
    rfl

/-- What is behind keys is left alone by steps that part from them. -/
theorem at?_change_of_apart (v : Value) {steps : List Step} {last : Step} {ks : List String}
    (h : Apart (steps ++ [last]) ks) (w : Value) : at? ks (change (setStep v last) steps w) = at? ks w := by
  induction steps generalizing ks w with
  | nil =>
    cases last with
    | item i => exact absurd h id
    | key k =>
      cases ks with
      | nil => exact absurd h (not_apart_nil _)
      | cons n ks =>
        have hk : n ≠ k := fun e => h.elim (· e.symm) id
        show (Pairs.at? n (setKey w.entries k v)).bind (at? ks) = (Pairs.at? n w.entries).bind (at? ks)
        rw [at?_setKey, if_neg hk]
  | cons step steps ih =>
    cases step with
    | item i => exact absurd h id
    | key k =>
      cases ks with
      | nil => exact absurd h (not_apart_nil _)
      | cons n ks =>
        show (Pairs.at? n (Pairs.put k _ w.entries)).bind (at? ks) = (Pairs.at? n w.entries).bind (at? ks)
        rw [Pairs.at?_put]
        split
        · next hk =>
          have hrest : Apart (steps ++ [last]) ks := h.resolve_left fun hne => hne hk.symm
          rw [Option.bind_some, ih hrest, ← hk]
          cases Pairs.at? n w.entries with
          | some x => rfl
          | none =>
            cases ks with
            | nil => exact absurd hrest (not_apart_nil _)
            | cons m ks => rfl
        · rfl

theorem at?_set_self {p : Path} {k : String} {ks : List String} (h : p.all = (ks ++ [k]).map .key) (v : Value)
    (es : Entries) : at? (ks ++ [k]) (table (p.set v es)) = some (merge (at? (ks ++ [k]) (table es)) v) := by
  rw [table_set (by rw [h, List.map_append]; rfl), at?_change_self]

theorem at?_set_of_apart {p : Path} {ks : List String} (h : Apart p.all ks) (v : Value) (es : Entries) :
    at? ks (table (p.set v es)) = at? ks (table es) := by
  obtain ⟨steps, last, hall⟩ := p.exists_last
  rw [table_set hall, at?_change_of_apart v (hall ▸ h)]

/-- A layer changes what is behind some keys by the one text in it that names these, if all others part from them. -/
theorem at?_setLayer {layer : Entries} (hlayer : (layer.map Prod.fst).Nodup) {text k : String} {ks : List String}
    (htext : (ofText text).all = (ks ++ [k]).map .key)
    (hothers : ∀ e ∈ layer, e.1 = text ∨ Apart (ofText e.1).all (ks ++ [k])) (es : Entries) :
    at? (ks ++ [k]) (table (setLayer layer es)) =
      overlay (at? (ks ++ [k]) (table es)) (Pairs.at? text layer) := by
  induction layer generalizing es with
  | nil => rfl
  | cons e layer ih =>
    obtain ⟨name, v⟩ := e
    rw [List.map_cons, List.nodup_cons] at hlayer
    obtain ⟨hname, hothers⟩ := List.forall_mem_cons.1 hothers
    show at? (ks ++ [k]) (table (setLayer layer ((ofText name).set v es))) = _
    rw [ih hlayer.2 hothers, Pairs.at?]
    by_cases heq : name = text
    · subst heq
      rw [if_pos rfl, Pairs.at?_eq_none name layer hlayer.1, at?_set_self htext]
      rfl
    · rw [if_neg heq, at?_set_of_apart (hname.resolve_left heq)]

end Path

end Bearer.Settings
