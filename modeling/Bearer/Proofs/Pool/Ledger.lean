import Bearer.Proofs.Pool.Job
import Bearer.Proofs.Store.Ahead
/-! How calls that run side by side over one store can be put in an order. A call takes its place in it with its
last change of the store, or as soon as it has failed for good; but one that found its value revoked is put
off to the end, since the value stays revoked. A call that has won its value and has still a token to add is
midway, and the store is ahead, by that value, of where the order has come to. -/

namespace Bearer

open Pool

section Lists

variable {α : Type}

/-- An element can be taken out of the middle. -/
theorem perm_cons_of_middle (y : α) (as bs cs ds : List α) :
    (as ++ (bs ++ y :: cs) ++ ds).Perm (y :: (as ++ (bs ++ cs) ++ ds)) := by
  have h : (as ++ bs ++ y :: (cs ++ ds)).Perm (y :: (as ++ bs ++ (cs ++ ds))) := List.perm_middle
  simpa using h

/-- What is left of a list beside one element of it, whatever the element is set to. -/
theorem perm_set {xs : List α} {i : Nat} {x : α} (hi : xs[i]? = some x) :
    ∃ ys, xs.Perm (x :: ys) ∧ ∀ y, (xs.set i y).Perm (y :: ys) := by
  obtain ⟨hlt, rfl⟩ := List.getElem?_eq_some_iff.1 hi
  have hset (y : α) : (xs.set i y).Perm (y :: (xs.take i ++ xs.drop (i + 1))) := by
    rw [List.set_eq_take_append_cons_drop, if_pos hlt]
    exact List.perm_middle
  have hself := hset xs[i]
  rw [List.set_getElem_self] at hself
  exact ⟨_, hself, hset⟩

end Lists

variable (now : Instant)

/-- The value is revoked, though in time. -/
def Spent (s : RefreshStore) (v : String) : Prop :=
  ∃ t, s.get? v = some t ∧ t.isExpired now = false ∧ t.revoked = true

/-- A call that has changed nothing and has still to do so: it has asked for nothing yet, or it has found its
token in time and not revoked. -/
def Waiting (s : RefreshStore) : (j : Job) → Call j.Outcome → Prop
  | ⟨.issue p user, d⟩, c => c = Job.call now ⟨.issue p user, d⟩ ∧
      ∃ access refresh, c = .ask (.add refresh) fun r => .done (r.map fun _ => ⟨access, refresh⟩)
  | ⟨.rotate p v, d⟩, c => c = Job.call now ⟨.rotate p v, d⟩ ∨
      ∃ t, s.get? v = some t ∧ t.isExpired now = false ∧ c = p.redeem now d v t.user
  | ⟨.withdraw v, d⟩, c => c = Job.call now ⟨.withdraw v, d⟩ ∨
      ∃ t, s.get? v = some t ∧ t.isExpired now = false ∧ c = retire v

/-- A result that a call has to find its value revoked for. -/
def Late (s : RefreshStore) : (j : Job) → j.Outcome → Prop
  | ⟨.issue _ _, _⟩, _ => False
  | ⟨.rotate _ v, _⟩, a => a = .error (.token .revoked) ∧ Spent now s v
  | ⟨.withdraw v, _⟩, a => a = .ok () ∧ Spent now s v

/-- An exchange that has won its value. -/
structure Midway where
  policy : Policy
  value : String
  draws : Draws
  token : Token

namespace Midway

def call (m : Midway) : (j : Job) × Call j.Outcome :=
  ⟨⟨.rotate m.policy m.value, m.draws⟩, (m.policy.issue m.token.user).run.given now m.draws⟩

/-- Where the order has come to the value is still usable, and the exchange has a token to add. -/
structure At (m : Midway) (t : RefreshStore) : Prop where
  stored : t.get? m.value = some m.token
  usable : m.token.isUsable now = true
  adds : ∃ access refresh, (m.policy.issue m.token.user).run.given now m.draws =
    .ask (.add refresh) fun r => .done (r.map fun _ => ⟨access, refresh⟩)

end Midway

/-- The calls of a pool, told apart by how they stand to the order. -/
structure Ledger where
  early : List ((j : Job) × j.Outcome)
  late : List ((j : Job) × j.Outcome)
  waiting : List ((j : Job) × Call j.Outcome)
  midway : List Midway
  /-- What the early calls leave behind when they run one after another. -/
  store : RefreshStore

namespace Ledger

def calls (x : Ledger) : List ((j : Job) × Call j.Outcome) :=
  x.early.map finished ++ x.late.map finished ++ x.waiting ++ x.midway.map (Midway.call now)

def values (x : Ledger) : List String := x.midway.map Midway.value

structure Holds (x : Ledger) (s₀ s : RefreshStore) (cs : List ((j : Job) × Call j.Outcome)) : Prop where
  calls : cs.Perm (x.calls now)
  early : Serially RefreshStore.Replies (Job.call now) s₀ x.early x.store
  late : ∀ y ∈ x.late, Late now s y.1 y.2
  waiting : ∀ y ∈ x.waiting, Waiting now s y.1 y.2
  midway : ∀ m ∈ x.midway, m.At now x.store
  distinct : x.values.Nodup

end Ledger

/-- There is a ledger of the calls, and the store is ahead of it by the calls that are midway. -/
def Accounted (s₀ s : RefreshStore) (cs : List ((j : Job) × Call j.Outcome)) : Prop :=
  ∃ x : Ledger, x.Holds now s₀ s cs ∧ s.Ahead x.store x.values

variable {now} {s₀ s s' : RefreshStore} {cs : List ((j : Job) × Call j.Outcome)}

theorem Spent.mono {v : String} (h : Spent now s v) (hs : s.Extends s') : Spent now s' v :=
  hs.found (fun _ ht => ⟨ht.1, rfl⟩) h

theorem Late.mono {j : Job} {a : j.Outcome} (h : Late now s j a) (hs : s.Extends s') : Late now s' j a := by
  obtain ⟨_ | ⟨p, v⟩ | v, d⟩ := j
  · exact h
  · exact ⟨h.1, h.2.mono hs⟩
  · exact ⟨h.1, h.2.mono hs⟩

theorem Waiting.mono {j : Job} {c : Call j.Outcome} (h : Waiting now s j c) (hs : s.Extends s') :
    Waiting now s' j c := by
  obtain ⟨_ | ⟨p, v⟩ | v, d⟩ := j
  · exact h
  · exact h.imp id (hs.found fun _ ht => ht)
  · exact h.imp id (hs.found fun _ ht => ht)

theorem Late.ends {j : Job} {a : j.Outcome} (h : Late now s j a) : Job.Ends now j s a s := by
  obtain ⟨_ | ⟨p, v⟩ | v, d⟩ := j
  · exact h.elim
  · obtain ⟨rfl, t, ht, he, hr⟩ := h
    exact Job.ends_rotate_revoked ht he hr
  · obtain ⟨rfl, t, ht, he, hr⟩ := h
    exact Job.ends_withdraw_unusable ht (Token.isUsable_eq_false.2 (Or.inr hr))

theorem Waiting.waits {j : Job} {c : Call j.Outcome} (h : Waiting now s j c) : ∃ r, c.Waits r := by
  obtain ⟨_ | ⟨p, v⟩ | v, d⟩ := j
  · obtain ⟨-, access, refresh, rfl⟩ := h
    exact ⟨_, _, rfl⟩
  · rcases h with rfl | ⟨t, -, -, rfl⟩
    · exact ⟨_, _, Job.call_rotate now p v d⟩
    · exact ⟨_, _, rfl⟩
  · rcases h with rfl | ⟨t, -, -, rfl⟩
    · exact ⟨_, _, Job.call_withdraw now v d⟩
    · exact ⟨_, _, rfl⟩

namespace Ledger.Holds

variable {x : Ledger}

theorem mono (h : x.Holds now s₀ s cs) (hs : s.Extends s') : x.Holds now s₀ s' cs :=
  { h with
    late := fun y hy => (h.late y hy).mono hs
    waiting := fun y hy => (h.waiting y hy).mono hs }

theorem wait (h : x.Holds now s₀ s cs) {j : Job} {c : Call j.Outcome} (hw : Waiting now s j c) :
    { x with waiting := ⟨j, c⟩ :: x.waiting }.Holds now s₀ s (⟨j, c⟩ :: cs) :=
  { h with
    calls := (h.calls.cons _).trans (List.perm_middle.symm.append_right _)
    waiting := List.forall_mem_cons.2 ⟨hw, h.waiting⟩ }

theorem postpone (h : x.Holds now s₀ s cs) {j : Job} {a : j.Outcome} (hl : Late now s j a) :
    { x with late := ⟨j, a⟩ :: x.late }.Holds now s₀ s (⟨j, .done a⟩ :: cs) :=
  { h with
    calls := (h.calls.cons _).trans ((List.perm_middle.symm.append_right _).append_right _)
    late := List.forall_mem_cons.2 ⟨hl, h.late⟩ }

theorem win (h : x.Holds now s₀ s cs) {m : Midway} (hm : m.At now x.store) (hv : m.value ∉ x.values) :
    { x with midway := m :: x.midway }.Holds now s₀ s (m.call now :: cs) :=
  { h with
    calls := (h.calls.cons _).trans List.perm_middle.symm
    midway := List.forall_mem_cons.2 ⟨hm, h.midway⟩
    distinct := by simpa [values] using And.intro hv h.distinct }

/-- A call takes its place in the order. -/
theorem serve (h : x.Holds now s₀ s cs) {j : Job} {a : j.Outcome} {t : RefreshStore}
    (hends : j.Ends now x.store a t) (hkept : ∀ m ∈ x.midway, t.get? m.value = x.store.get? m.value) :
    { x with early := x.early ++ [Sigma.mk j a], store := t }.Holds now s₀ s (⟨j, .done a⟩ :: cs) where
  calls := by
    refine (h.calls.cons _).trans ?_
    simpa [Ledger.calls, finished] using List.perm_middle.symm
  early := .snoc h.early hends
  late := h.late
  waiting := h.waiting
  midway := fun m hm =>
    { h.midway m hm with stored := (hkept m hm).trans (h.midway m hm).stored }
  distinct := h.distinct

theorem take_waiting (h : x.Holds now s₀ s cs) {y : (j : Job) × Call j.Outcome} (hy : y ∈ x.waiting)
    {cs' : List ((j : Job) × Call j.Outcome)} (hcs : cs.Perm (y :: cs')) :
    ∃ ws, { x with waiting := ws }.Holds now s₀ s cs' := by
  obtain ⟨w₁, w₂, hws⟩ := List.append_of_mem hy
  refine ⟨w₁ ++ w₂, { h with calls := ?_, waiting := fun z hz => h.waiting z ?_ }⟩
  · have hall := h.calls
    simp only [Ledger.calls, hws] at hall
    exact (List.perm_cons y).1 (hcs.symm.trans (hall.trans (perm_cons_of_middle ..)))
  · rw [hws]
    exact List.mem_append.2 ((List.mem_append.1 hz).imp id (List.mem_cons_of_mem y))

theorem take_midway (h : x.Holds now s₀ s cs) {m : Midway} (hm : m ∈ x.midway)
    {cs' : List ((j : Job) × Call j.Outcome)} (hcs : cs.Perm (m.call now :: cs'))
    (hahead : s.Ahead x.store x.values) :
    ∃ ms, { x with midway := ms }.Holds now s₀ s cs' ∧ m.value ∉ ms.map Midway.value ∧
      s.Ahead x.store (m.value :: ms.map Midway.value) := by
  obtain ⟨m₁, m₂, hms⟩ := List.append_of_mem hm
  have hvalues : x.values.Perm (m.value :: (m₁ ++ m₂).map Midway.value) := by
    simp [values, hms]
  have hdistinct := List.nodup_cons.1 (hvalues.nodup_iff.1 h.distinct)
  refine ⟨m₁ ++ m₂, { h with calls := ?_, midway := fun z hz => h.midway z ?_, distinct := hdistinct.2 },
    hdistinct.1, hahead.congr fun v => hvalues.mem_iff⟩
  · have hall := h.calls
    simp only [Ledger.calls, hms, List.map_append, List.map_cons] at hall
    refine (List.perm_cons (m.call now)).1 (hcs.symm.trans (hall.trans ?_))
    simpa [Ledger.calls] using perm_cons_of_middle (m.call now)
      (x.early.map finished ++ x.late.map finished ++ x.waiting) (m₁.map (Midway.call now))
      (m₂.map (Midway.call now)) []
  · rw [hms]
    exact List.mem_append.2 ((List.mem_append.1 hz).imp id (List.mem_cons_of_mem m))

end Ledger.Holds

end Bearer
