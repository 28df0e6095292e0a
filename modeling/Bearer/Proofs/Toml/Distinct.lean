import Bearer.Proofs.Settings.Merging
import Bearer.Toml.Document
/-! No table of a settings file has a key twice, however it is written and wherever in the file it is. -/

namespace Bearer

open Settings

namespace Settings.Value

/-- No table that is found behind keys has a key twice. -/
def Distinct (v : Value) : Prop := ∀ ks es, at? ks v = some (table es) → (es.map Prod.fst).Nodup

theorem Distinct.at? {v w : Value} (h : v.Distinct) {ks : List String} (hw : v.at? ks = some w) : w.Distinct :=
  fun ks' es hes => h (ks ++ ks') es (by rw [at?_append, hw]; exact hes)

theorem distinct_of_not_isTable {v : Value} (h : v.isTable = false) : v.Distinct := by
  intro ks es hes
  cases ks with
  | nil =>
    cases hes
    cases h
  | cons k ks =>
    rw [at?_cons_of_not_isTable h] at hes
    cases hes

theorem mem_of_at? {k : String} {v : Value} {es : Entries} (h : Pairs.at? k es = some v) : (k, v) ∈ es := by
  induction es with
  | nil => cases h
  | cons e es ih =>
    obtain ⟨a, w⟩ := e
    rw [Pairs.at?] at h
    split at h
    · next ha =>
      cases h
      exact ha ▸ List.mem_cons_self
    · exact List.mem_cons_of_mem _ (ih h)

theorem at?_of_mem {es : Entries} (hes : (es.map Prod.fst).Nodup) {e : String × Value} (he : e ∈ es) :
    Pairs.at? e.1 es = some e.2 := by
  induction es with
  | nil => cases he
  | cons e' es ih =>
    rw [List.map_cons, List.nodup_cons] at hes
    rcases List.mem_cons.1 he with rfl | he
    · rw [Pairs.at?, if_pos rfl]
    · have hne : e'.1 ≠ e.1 := fun heq => hes.1 (heq ▸ List.mem_map_of_mem he)
      rw [Pairs.at?, if_neg hne, ih hes.2 he]

theorem distinct_table {es : Entries} (hes : (es.map Prod.fst).Nodup) (h : ∀ e ∈ es, e.2.Distinct) :
    (table es).Distinct := by
  intro ks inner hinner
  cases ks with
  | nil =>
    cases hinner
    exact hes
  | cons k ks =>
    obtain ⟨w, hw, hrest⟩ := Option.bind_eq_some_iff.1 hinner
    exact h _ (mem_of_at? hw) ks inner hrest

theorem distinct_table_nil : (table []).Distinct := distinct_table List.nodup_nil fun _ he => absurd he List.not_mem_nil

theorem Distinct.of_mem {es : Entries} (h : (table es).Distinct) {e : String × Value} (he : e ∈ es) : e.2.Distinct := by
  have hfound : (table es).at? [e.1] = some e.2 := congrArg (·.bind some) (at?_of_mem (h [] es rfl) he)
  exact h.at? hfound

end Settings.Value

open Settings.Value

namespace Toml

theorem isTable_of_writtenTime {v : Value} {w : Settings.Value} (h : writtenTime? v = some w) : w.isTable = false := by
  cases v with
  | text s =>
    obtain ⟨t, -, rfl⟩ := Option.map_eq_some_iff.1 h
    rfl
  | _ => cases h

mutual

theorem distinct_setting : {v : Value} → {w : Settings.Value} → setting? v = some w → w.Distinct
  | .text s, w, h => by cases h; exact distinct_of_not_isTable rfl
  | .number (.int n), w, h => by cases h; exact distinct_of_not_isTable rfl
  | .number (.float x), w, h => by cases h; exact distinct_of_not_isTable rfl
  | .flag b, w, h => by cases h; exact distinct_of_not_isTable rfl
  | .time s, w, h => by cases h; exact distinct_of_not_isTable rfl
  | .array items, w, h => by
    obtain ⟨ws, -, rfl⟩ := Option.map_eq_some_iff.1 h
    exact distinct_of_not_isTable rfl
  | .table es, w, h => distinct_tableOrTime h
  | .dotted es, w, h => distinct_tableOrTime h

theorem distinct_tableOrTime : {es : List (String × Value)} → {w : Settings.Value} → tableOrTime? es = some w →
    w.Distinct
  | [], w, h => by
    cases h
    exact distinct_table_nil
  | (k, v) :: es, w, h => by
    rw [tableOrTime?] at h
    split at h
    · exact distinct_of_not_isTable (isTable_of_writtenTime h)
    · simp only [Option.bind_eq_bind, Option.bind_eq_some_iff, Option.ite_none_right_eq_some, Option.some.injEq] at h
      obtain ⟨x, hx, xs, hxs, hdistinct, rfl⟩ := h
      exact distinct_table (of_decide_eq_true hdistinct)
        (List.forall_mem_cons.2 ⟨distinct_setting hx, distinct_entries hxs⟩)

theorem distinct_entries : {es : List (String × Value)} → {ws : Settings.Value.Entries} → entries? es = some ws →
    ∀ e ∈ ws, e.2.Distinct
  | [], ws, h => by
    cases h
    exact fun e he => nomatch he
  | (k, v) :: es, ws, h => by
    simp only [entries?, Option.bind_eq_bind, Option.bind_eq_some_iff, Option.some.injEq] at h
    obtain ⟨x, hx, xs, hxs, rfl⟩ := h
    exact List.forall_mem_cons.2 ⟨distinct_setting hx, distinct_entries hxs⟩

end

theorem isTable_of_partsTime {parts : List Part} {w : Settings.Value} (h : partsTime? parts = some (some w)) :
    w.isTable = false := by
  unfold partsTime? at h
  split at h
  · simp only [Option.ite_none_right_eq_some, Option.some.injEq] at h
    obtain ⟨v, -, hv⟩ := Option.bind_eq_some_iff.1 h.2
    exact isTable_of_writtenTime hv
  · cases h

/-- What is made for each of some keys. -/
theorem entries_of_mapM {f : String → Option (String × Settings.Value)} {P : Settings.Value → Prop}
    (hf : ∀ k e, f k = some e → e.1 = k ∧ P e.2) {names : List String} {es : Settings.Value.Entries}
    (h : names.mapM f = some es) : es.map Prod.fst = names ∧ ∀ e ∈ es, P e.2 := by
  induction names generalizing es with
  | nil =>
    cases h
    exact ⟨rfl, fun e he => nomatch he⟩
  | cons k names ih =>
    simp only [List.mapM_cons, Option.bind_eq_bind, Option.bind_eq_some_iff, Option.pure_def, Option.some.injEq] at h
    obtain ⟨e, he, es', hes', rfl⟩ := h
    obtain ⟨hkey, hvalue⟩ := hf k e he
    obtain ⟨hkeys, hvalues⟩ := ih hes'
    exact ⟨by rw [List.map_cons, hkey, hkeys], List.forall_mem_cons.2 ⟨hvalue, hvalues⟩⟩

theorem distinct_table? {fuel : Nat} {asItem : Bool} {parts : List Part} {w : Settings.Value}
    (h : table? fuel asItem parts = some w) : w.Distinct := by
  induction fuel generalizing asItem parts w with
  | zero => cases h
  | succ fuel ih =>
    rw [table?] at h
    split at h
    · next time htime =>
      dsimp only at h
      split at h
      · obtain ⟨x, rfl, hx⟩ := Option.bind_eq_some_iff.1 h
        cases hx
        exact distinct_of_not_isTable (isTable_of_partsTime htime)
      · cases h
    · dsimp only at h
      split at h
      · cases h
      split at h
      · cases h
      obtain ⟨es, hes, h⟩ := Option.bind_eq_some_iff.1 h
      split at h
      · cases h
      · next hkeys =>
        obtain ⟨inner, hinner, h⟩ := Option.bind_eq_some_iff.1 h
        cases h
        obtain ⟨hnames, htables⟩ : inner.map Prod.fst = _ ∧ ∀ e ∈ inner, e.2.Distinct := by
          refine entries_of_mapM (fun k e he => ?_) hinner
          split at he
          · obtain ⟨ts, -, rfl⟩ := Option.map_eq_some_iff.1 he
            exact ⟨rfl, distinct_of_not_isTable rfl⟩
          · obtain ⟨t, ht, rfl⟩ := Option.map_eq_some_iff.1 he
            exact ⟨rfl, ih ht⟩
        refine distinct_table ?_ fun e he => ?_
        · rw [Bool.not_eq_true', Bool.not_eq_false] at hkeys
          rw [List.map_append, hnames]
          exact of_decide_eq_true hkeys
        · rcases List.mem_append.1 he with he | he
          · exact distinct_entries hes e he
          · exact htables e he

/-- A settings file has no key twice in any of its tables. -/
theorem distinct_parse {text : String} {w : Settings.Value} (h : parse? text = some w) : w.Distinct := by
  simp only [parse?, Option.bind_eq_bind, Option.bind_eq_some_iff] at h
  obtain ⟨lines, -, parts, -, h⟩ := h
  split at h
  · next time htime =>
    subst h
    exact distinct_of_not_isTable (isTable_of_partsTime htime)
  · exact distinct_table? h

end Toml

end Bearer
