import Bearer.Proofs.Call.Does
/-! Any number of calls under way at the same time over something they share. A step begins a call or
answers the request that one call waits for; which call is next, and what the answer is as far as
what is shared leaves it open, is up to the run. So a statement about all runs is one about all
interleavings. `Run.reaches` takes a run apart into the histories of the single calls. -/

namespace Bearer

/-- What is shared, and the calls in the order in which they were begun, each with what it is for. -/
structure Pool (σ : Type) {ω : Type} (Result : ω → Type) where
  shared : σ
  calls : List ((op : ω) × Call (Result op))

namespace Pool

variable {σ ω : Type} {Result : ω → Type}

inductive Event (ω : Type)
  | begun (op : ω)
  | answered (call : Nat) (x : Exchange)

/-- A pool in which nothing has been asked yet. -/
def start (s : σ) : Pool σ Result := ⟨s, []⟩

variable (perform : (op : ω) → Call (Result op)) (Replies : σ → (r : Request) → r.Answer → σ → Prop)

inductive Step : Pool σ Result → Event ω → Pool σ Result → Prop
  | begin (pool : Pool σ Result) (op : ω) :
      Step pool (.begun op) ⟨pool.shared, pool.calls ++ [⟨op, perform op⟩]⟩
  | answer {pool : Pool σ Result} {i : Nat} {op : ω} {r : Request} {next : r.Answer → Call (Result op)}
      (a : r.Answer) {s : σ} (hi : pool.calls[i]? = some ⟨op, .ask r next⟩)
      (hr : Replies pool.shared r a s) : Step pool (.answered i ⟨r, a⟩) ⟨s, pool.calls.set i ⟨op, next a⟩⟩

inductive Run : Pool σ Result → List (Event ω) → Pool σ Result → Prop
  | nil (pool : Pool σ Result) : Run pool [] pool
  | snoc {p q r : Pool σ Result} {log : List (Event ω)} {e : Event ω} :
      Run p log q → Step perform Replies q e r → Run p (log ++ [e]) r

variable {perform} {Replies} {p q : Pool σ Result} {log : List (Event ω)}

/-- A further run sets out from where a run has come to. -/
theorem Run.onward (_ : Run perform Replies p log q) : Run perform Replies q [] q := .nil q

theorem Run.trans {r : Pool σ Result} {log' : List (Event ω)} (h₁ : Run perform Replies p log q)
    (h₂ : Run perform Replies q log' r) : Run perform Replies p (log ++ log') r := by
  induction h₂ with
  | nil => simpa using h₁
  | snoc _ hs ih => rw [← List.append_assoc]; exact .snoc ih hs

theorem Run.of_snoc {e : Event ω} (h : Run perform Replies p (log ++ [e]) q) :
    ∃ m, Run perform Replies p log m ∧ Step perform Replies m e q := by
  generalize hl : log ++ [e] = l at h
  cases h with
  | nil => simp at hl
  | snoc h hs =>
    obtain ⟨rfl, he⟩ := List.append_inj' hl rfl
    obtain rfl : e = _ := by simpa using he
    exact ⟨_, h, hs⟩

/-- A run passes through a pool behind each part of its log. -/
theorem Run.split {log₁ log₂ : List (Event ω)} (h : Run perform Replies p (log₁ ++ log₂) q) :
    ∃ m, Run perform Replies p log₁ m ∧ Run perform Replies m log₂ q := by
  generalize hl : log₁ ++ log₂ = log at h
  induction h generalizing log₂ with
  | nil =>
    obtain ⟨rfl, rfl⟩ := List.append_eq_nil_iff.1 hl
    exact ⟨_, .nil _, .nil _⟩
  | @snoc q r log e h hs ih =>
    rcases List.eq_nil_or_concat log₂ with rfl | ⟨log₂', e', rfl⟩
    · rw [List.append_nil] at hl
      subst hl
      exact ⟨r, .snoc h hs, .nil r⟩
    · rw [List.concat_eq_append, ← List.append_assoc] at hl
      obtain ⟨hl', he⟩ := List.append_inj' hl rfl
      obtain rfl : e' = e := by simpa using he
      obtain ⟨m, hm, hq⟩ := ih hl'
      exact ⟨m, hm, by rw [List.concat_eq_append]; exact .snoc hq hs⟩

/-- The step that an event of a run stands for, with what goes before and what comes after. -/
theorem Run.of_mem {e : Event ω} (h : Run perform Replies p log q) (he : e ∈ log) :
    ∃ log₁ log₂ m n, log = log₁ ++ e :: log₂ ∧ Run perform Replies p log₁ m ∧
      Step perform Replies m e n ∧ Run perform Replies n log₂ q := by
  obtain ⟨log₁, log₂, rfl⟩ := List.append_of_mem he
  rw [List.append_cons] at h
  obtain ⟨n, hn, hq⟩ := h.split
  obtain ⟨m, hm, hs⟩ := hn.of_snoc
  exact ⟨log₁, log₂, m, n, rfl, hm, hs, hq⟩

/-- What every reply keeps, every run keeps. -/
theorem Run.shared {R : σ → σ → Prop} (hrefl : ∀ s, R s s) (htrans : ∀ a b c, R a b → R b c → R a c)
    (hreply : ∀ s r a s', Replies s r a s' → R s s') (h : Run perform Replies p log q) :
    R p.shared q.shared := by
  induction h with
  | nil => exact hrefl _
  | snoc _ hs ih =>
    cases hs with
    | begin => exact ih
    | answer a _ hr => exact htrans _ _ _ ih (hreply _ _ _ _ hr)

/-- What every step keeps that a run can take, every run keeps. -/
theorem Run.preserves {I : Pool σ Result → Prop} (h : Run perform Replies p log q) (hp : I p)
    (hstep : ∀ {log m e n}, Run perform Replies p log m → Step perform Replies m e n → I m → I n) : I q := by
  induction h with
  | nil => exact hp
  | snoc hm hs ih => exact hstep hm hs ih

/-- What was answered to one call, in order. -/
def history (i : Nat) (log : List (Event ω)) : List Exchange :=
  log.filterMap fun
    | .begun _ => none
    | .answered j x => if j = i then some x else none

theorem history_append (i : Nat) (log log' : List (Event ω)) :
    history i (log ++ log') = history i log ++ history i log' := by
  simp [history]

theorem mem_history {i : Nat} {x : Exchange} : x ∈ history i log ↔ .answered i x ∈ log := by
  simp only [history, List.mem_filterMap]
  constructor
  · rintro ⟨_ | ⟨j, y⟩, he, hx⟩
    · cases hx
    · simp only [Option.ite_none_right_eq_some, Option.some.injEq] at hx
      obtain ⟨rfl, rfl⟩ := hx
      exact he
  · intro h
    exact ⟨_, h, by simp⟩

@[simp] theorem history_begun (i : Nat) (op : ω) : history i [Event.begun op] = [] := rfl

@[simp] theorem history_answered (i j : Nat) (x : Exchange) :
    history i [(Event.answered j x : Event ω)] = if j = i then [x] else [] := by
  by_cases h : j = i <;> simp [history, h]

theorem Run.length_le (h : Run perform Replies p log q) : p.calls.length ≤ q.calls.length := by
  induction h with
  | nil => exact Nat.le_refl _
  | snoc _ hs ih =>
    cases hs with
    | begin => simp only [List.length_append, List.length_singleton]; omega
    | answer => simpa using ih

/-- A call that has not begun has no history. -/
theorem Run.history_eq_nil (h : Run perform Replies p log q) {i : Nat} (hi : q.calls.length ≤ i) :
    history i log = [] := by
  induction h with
  | nil => rfl
  | snoc _ hs ih =>
    rw [history_append]
    cases hs with
    | begin =>
      simp only [List.length_append, List.length_singleton] at hi
      rw [ih (by omega), history_begun, List.nil_append]
    | @answer j _ _ _ _ _ hj _ =>
      simp only [List.length_set] at hi
      have hlt := (List.getElem?_eq_some_iff.1 hj).1
      rw [ih hi, history_answered, if_neg (by omega), List.nil_append]

/-- What was answered was asked by a call. -/
theorem Run.exists_call (h : Run perform Replies p log q) {i : Nat} {x : Exchange} (hx : .answered i x ∈ log) :
    ∃ c, q.calls[i]? = some c := by
  refine ⟨_, List.getElem?_eq_getElem (Decidable.byContradiction fun hi => ?_)⟩
  have hmem := mem_history.2 hx
  rw [h.history_eq_nil (Nat.not_lt.1 hi)] at hmem
  cases hmem

/-- Each call of a pool is what its history has left of a call of the pool before, or of one begun since. -/
theorem Run.reaches (h : Run perform Replies p log q) {i : Nat} {op : ω} {c : Call (Result op)}
    (hi : q.calls[i]? = some ⟨op, c⟩) :
    (∃ d, p.calls[i]? = some ⟨op, d⟩ ∧ d.Reaches (history i log) c) ∨
      (p.calls.length ≤ i ∧ (perform op).Reaches (history i log) c) := by
  induction h generalizing c with
  | nil => exact Or.inl ⟨c, hi, .here c⟩
  | @snoc q r log e h hs ih =>
    rw [history_append]
    cases hs with
    | begin op' =>
      rw [history_begun, List.append_nil]
      rcases Nat.lt_trichotomy i q.calls.length with hlt | heq | hgt
      · rw [List.getElem?_append_left hlt] at hi
        exact ih hi
      · rw [heq, List.getElem?_concat_length] at hi
        cases hi
        refine Or.inr ⟨heq ▸ h.length_le, ?_⟩
        rw [h.history_eq_nil (by omega)]
        exact .here _
      · rw [List.getElem?_eq_none (by simp; omega)] at hi
        cases hi
    | @answer j op' r' next a s hj hr =>
      rw [history_answered]
      split
      · next hji =>
        subst hji
        rw [List.getElem?_set_self (List.getElem?_eq_some_iff.1 hj).1] at hi
        cases hi
        rcases ih hj with ⟨d, hd, hreach⟩ | ⟨hle, hreach⟩
        · exact Or.inl ⟨d, hd, hreach.snoc a⟩
        · exact Or.inr ⟨hle, hreach.snoc a⟩
      · next hji =>
        rw [List.getElem?_set_ne hji] at hi
        simpa using ih hi

theorem Run.reaches_of_start {s : σ} (h : Run perform Replies (start s) log q) {i : Nat} {op : ω}
    {c : Call (Result op)} (hi : q.calls[i]? = some ⟨op, c⟩) : (perform op).Reaches (history i log) c := by
  rcases h.reaches hi with ⟨d, hd, _⟩ | ⟨_, hc⟩
  · simp [start] at hd
  · exact hc

theorem Run.does {s : σ} {P : ω → Request → Prop} {Q : (op : ω) → Result op → Prop}
    (h : Run perform Replies (start s) log q) (hP : ∀ op, (perform op).Does (P op) (Q op)) {i : Nat} {op : ω}
    {c : Call (Result op)} (hi : q.calls[i]? = some ⟨op, c⟩) : c.Does (P op) (Q op) :=
  (h.reaches_of_start hi).does (hP op)

/-- A call stays in its place. -/
theorem Run.kept (h : Run perform Replies p log q) {i : Nat} {op : ω} {c : Call (Result op)}
    (hi : p.calls[i]? = some ⟨op, c⟩) : ∃ d, q.calls[i]? = some ⟨op, d⟩ := by
  induction h with
  | nil => exact ⟨c, hi⟩
  | @snoc q r log e _ hs ih =>
    obtain ⟨d, hd⟩ := ih
    have hlt := (List.getElem?_eq_some_iff.1 hd).1
    cases hs with
    | begin op' => exact ⟨d, by rw [List.getElem?_append_left hlt]; exact hd⟩
    | @answer j op' r' next a s hj hr =>
      by_cases hji : j = i
      · subst hji
        rw [hj] at hd
        cases hd
        exact ⟨next a, List.getElem?_set_self hlt⟩
      · exact ⟨d, by rw [List.getElem?_set_ne hji]; exact hd⟩

end Pool

end Bearer
