import Bearer.Proofs.Pool.SingleUse
import Bearer.Proofs.Store.Ahead
import Mathlib.Combinatorics.Enumerative.DoubleCounting
import Mathlib.Data.Finset.Sum
/-! Exchanges multiply no credentials. Every stored token was added by one call, an issue or an exchange, and
each of these adds at most one; an exchange has used up a token of the same user before. So the tokens that a
user can still use are no more than the issues that have stored one for him. -/

namespace Bearer

namespace RefreshStore

/-- The values under which tokens of a kind are stored. -/
def valuesOf (s : RefreshStore) (P : Token → Bool) : List String := s.keys.filter fun v => (s.get? v).any P

theorem mem_valuesOf {s : RefreshStore} {P : Token → Bool} {v : String} :
    v ∈ s.valuesOf P ↔ ∃ t, s.get? v = some t ∧ P t = true := by
  simp only [valuesOf, List.mem_filter, mem_keys]
  cases s.get? v <;> simp

theorem nodup_valuesOf (s : RefreshStore) (P : Token → Bool) : (s.valuesOf P).Nodup :=
  s.tokens.nodup.sublist List.filter_sublist

/-- The values of a user's tokens. -/
def owned (s : RefreshStore) (user : Uuid) : List String := s.valuesOf fun t => t.user = user

/-- The values of a user's tokens that are not revoked. -/
def live (s : RefreshStore) (user : Uuid) : List String := s.valuesOf fun t => t.user = user && !t.revoked

/-- The values of a user's tokens that are revoked. -/
def spent (s : RefreshStore) (user : Uuid) : List String := s.valuesOf fun t => t.user = user && t.revoked

theorem length_live_add_length_spent (s : RefreshStore) (user : Uuid) :
    (s.live user).length + (s.spent user).length = (s.owned user).length := by
  simp only [owned, live, spent, valuesOf]
  induction s.keys with
  | nil => rfl
  | cons v vs ih =>
    cases h : s.get? v with
    | none => simpa [h] using ih
    | some t =>
      by_cases hu : t.user = user
      · cases hr : t.revoked <;> simp [h, hu, hr] <;> omega
      · simpa [h, hu] using ih

end RefreshStore

namespace Call

variable {α : Type}

/-- The call stores at most one token, one of a kind, and asks for nothing more behind it. -/
def StoresLast (Q : Token → Prop) : Call α → Prop
  | done _ => True
  | ask (.add t) next => Q t ∧ ∀ a, ∃ b, next a = done b
  | ask _ next => ∀ a, (next a).StoresLast Q

theorem Reaches.stored {Q : Token → Prop} {c d : Call α} {xs : List Exchange} (h : Reaches c xs d)
    (hc : c.StoresLast Q) {t : Token} {a : Except Fault Unit} (ht : ⟨.add t, a⟩ ∈ xs) :
    Q t ∧ ∀ t' a', ⟨.add t', a'⟩ ∈ xs → t' = t := by
  induction h with
  | here => cases ht
  | @there r next b xs d h ih =>
    cases r with
    | add t₀ =>
      obtain ⟨hQ, hlast⟩ := hc
      obtain ⟨b', hb'⟩ := hlast b
      rw [hb'] at h
      obtain ⟨rfl, -⟩ := reaches_done h
      cases List.mem_singleton.1 ht
      refine ⟨hQ, fun t' a' h' => ?_⟩
      cases List.mem_singleton.1 h'
      rfl
    | _ =>
      obtain ⟨hQ, hall⟩ := ih (hc b) (by simpa using ht)
      exact ⟨hQ, fun t' a' h' => hall t' a' (by simpa using h')⟩

end Call

theorem Policy.storesLast_issue (p : Policy) (user : Uuid) :
    (p.issue user).run.StoresLast fun t => t.user = user := by
  rw [run_issue]
  intro now
  simp only [run_accessToken, run_refreshToken]
  cases expiry now p.accessTtl with
  | error f => trivial
  | ok accessEnd =>
    intro id
    simp only [Call.ask_bind, Call.done_bind]
    split
    · trivial
    · intro id value
      simp only
      split
      · trivial
      · next refresh hrefresh =>
        refine ⟨?_, fun a => ⟨_, rfl⟩⟩
        cases hend : expiry now p.refreshTtl with
        | error f => rw [hend] at hrefresh; cases hrefresh
        | ok refreshEnd => rw [hend] at hrefresh; rw [(Token.create_eq_ok.1 hrefresh).2]

open Pool

variable {log : List (Event Operation)} {pool : Pool RefreshStore Operation.Outcome}

/-- The calls that have stored a token, in the order in which they did. -/
def Pool.storers {ω : Type} (log : List (Event ω)) : List Nat :=
  log.filterMap fun
    | .answered i ⟨.add _, .ok ()⟩ => some i
    | _ => none

theorem mem_storers {ω : Type} {log : List (Event ω)} {i : Nat} :
    i ∈ storers log ↔ ∃ t, .answered i ⟨.add t, .ok ()⟩ ∈ log := by
  simp only [storers, List.mem_filterMap]
  constructor
  · rintro ⟨e, he, hx⟩
    split at hx
    · cases hx
      exact ⟨_, he⟩
    · cases hx
  · rintro ⟨t, ht⟩
    exact ⟨_, ht, rfl⟩

def Operation.isIssueFor (user : Uuid) : Operation → Bool
  | issue _ u => u = user
  | _ => false

/-- The calls that are an issue for a user and have stored their token. -/
def directIssues (user : Uuid) (log : List (Event Operation)) (pool : Pool RefreshStore Operation.Outcome) :
    List Nat :=
  (List.range pool.calls.length).filter fun i =>
    (pool.calls[i]?.any fun c => c.1.isIssueFor user) && decide (i ∈ storers log)

theorem nodup_directIssues (user : Uuid) (log : List (Event Operation))
    (pool : Pool RefreshStore Operation.Outcome) : (directIssues user log pool).Nodup :=
  List.nodup_range.sublist List.filter_sublist

theorem mem_directIssues {user : Uuid} {i : Nat} :
    i ∈ directIssues user log pool ↔
      (∃ p c, pool.calls[i]? = some ⟨.issue p user, c⟩) ∧ ∃ t, .answered i ⟨.add t, .ok ()⟩ ∈ log := by
  simp only [directIssues, List.mem_filter, List.mem_range, Bool.and_eq_true, decide_eq_true_eq, mem_storers]
  constructor
  · rintro ⟨-, hi, ht⟩
    refine ⟨?_, ht⟩
    cases hc : pool.calls[i]? with
    | none => simp [hc] at hi
    | some c =>
      obtain ⟨op, c⟩ := c
      cases op with
      | issue p u =>
        obtain rfl : u = user := by simpa [hc, Operation.isIssueFor] using hi
        exact ⟨p, c, rfl⟩
      | _ => simp [hc, Operation.isIssueFor] at hi
  · rintro ⟨⟨p, c, hc⟩, ht⟩
    exact ⟨(List.getElem?_eq_some_iff.1 hc).1, by simp [hc, Operation.isIssueFor], ht⟩

/-- An exchange that stores a token has won a value of the same user before. -/
theorem RotatePath.of_added {p : Policy} {v : String} {xs : List Exchange} {c : Call (Except Fault TokenPair)}
    (h : RotatePath p v xs c) {t : Token} (ht : ⟨.add t, .ok ()⟩ ∈ xs) :
    (∃ t₀, ⟨.find v, .ok t₀⟩ ∈ xs ∧ t₀.user = t.user) ∧ ⟨.tryRevoke v, .ok true⟩ ∈ xs ∧
      ∀ t' a, ⟨.add t', a⟩ ∈ xs → t' = t := by
  cases h with
  | won t₀ now hu hissue =>
    obtain ⟨huser, hall⟩ := hissue.stored (p.storesLast_issue t₀.user) (by simpa using ht)
    exact ⟨⟨t₀, by simp, huser.symm⟩, by simp, fun t' a h' => hall t' a (by simpa using h')⟩
  | _ => simp at ht

/-- A value that was found and won is spent, by the user of the token that was found. -/
theorem mem_spent_of_won (h : Operation.Run (.start .empty) log pool) {i j : Nat} {v : String} {t : Token}
    (hfind : .answered i ⟨.find v, .ok t⟩ ∈ log) (hwon : .answered j ⟨.tryRevoke v, .ok true⟩ ∈ log) :
    v ∈ pool.shared.spent t.user := by
  obtain ⟨t', ht', hr⟩ := (h.winners_le v).2 (List.ne_nil_of_mem (mem_winners.2 hwon))
  refine RefreshStore.mem_valuesOf.2 ⟨t', ht', ?_⟩
  rcases h.stored_of_found hfind with hs | hs <;>
  · rw [ht'] at hs
    cases hs
    simp [hr, Token.revoke]

/-- A call adds at most one token, either as an issue for the user of the token, or as the exchange that has won
a value of the same user. -/
theorem source_of_added (h : Operation.Run (.start .empty) log pool) {i : Nat} {t : Token}
    (ht : .answered i ⟨.add t, .ok ()⟩ ∈ log) :
    (∀ t', .answered i ⟨.add t', .ok ()⟩ ∈ log → t' = t) ∧
      (i ∈ directIssues t.user log pool ∨ ∃ v ∈ pool.shared.spent t.user, i ∈ winners v log) := by
  obtain ⟨⟨op, c⟩, hc⟩ := h.exists_call ht
  have hreach := h.reaches_of_start hc
  have hx := mem_history.2 ht
  cases op with
  | issue p user =>
    obtain ⟨rfl, hall⟩ := hreach.stored (p.storesLast_issue user) hx
    exact ⟨fun t' h' => hall t' _ (mem_history.2 h'), Or.inl (mem_directIssues.2 ⟨⟨p, c, hc⟩, t, ht⟩)⟩
  | rotate p v =>
    obtain ⟨⟨t₀, hfind, huser⟩, hwon, hall⟩ := (rotatePath_of_reaches hreach).of_added hx
    rw [mem_history] at hfind hwon
    exact ⟨fun t' h' => hall t' _ (mem_history.2 h'),
      Or.inr ⟨v, huser ▸ mem_spent_of_won h hfind hwon, mem_winners.2 hwon⟩⟩
  | withdraw v =>
    have hpath := withdrawPath_of_reaches hreach
    generalize history i log = xs at hpath hx
    cases hpath <;> simp at hx

/-- What a stored value comes from: a call that issued it directly, or a value that was spent for it. -/
def ComesFrom (log : List (Event Operation)) (v : String) (source : Nat ⊕ String) : Prop :=
  ∃ i t, .answered i ⟨.add t, .ok ()⟩ ∈ log ∧ t.value = v ∧ source.elim (i = ·) (i ∈ winners · log)

theorem exists_source (h : Operation.Run (.start .empty) log pool) {user : Uuid} {v : String}
    (hv : v ∈ pool.shared.owned user) :
    ∃ x ∈ (directIssues user log pool).toFinset.disjSum (pool.shared.spent user).toFinset, ComesFrom log v x := by
  obtain ⟨t, ht, hu⟩ := RefreshStore.mem_valuesOf.1 hv
  obtain ⟨i, t₀, hadd, hvalue, huser⟩ := h.added_of_stored ht
  obtain rfl : t₀.user = user := huser.trans (of_decide_eq_true hu)
  rcases (source_of_added h hadd).2 with hi | ⟨w, hw, hi⟩
  · exact ⟨.inl i, by simpa using hi, i, t₀, hadd, hvalue, rfl⟩
  · exact ⟨.inr w, by simpa using hw, i, t₀, hadd, hvalue, hi⟩

/-- Nothing is the source of two values. -/
theorem ComesFrom.unique (h : Operation.Run (.start .empty) log pool) {v w : String} {x : Nat ⊕ String}
    (hv : ComesFrom log v x) (hw : ComesFrom log w x) : v = w := by
  obtain ⟨i, t, ht, rfl, hi⟩ := hv
  obtain ⟨j, t', ht', rfl, hj⟩ := hw
  obtain rfl : i = j := by
    cases x with
    | inl k => exact hi.trans hj.symm
    | inr w => exact h.winner_unique hi hj
  rw [(source_of_added h ht).1 t' ht']

/-- In every pool that a run can come to, also between the steps of calls under way, the tokens of a user that
are not revoked are no more than the issues for that user that have stored their token so far. -/
theorem live_le_directIssues (h : Operation.Run (.start .empty) log pool) (user : Uuid) :
    (pool.shared.live user).length ≤ (directIssues user log pool).length := by
  have hcard : (pool.shared.owned user).toFinset.card ≤
      ((directIssues user log pool).toFinset.disjSum (pool.shared.spent user).toFinset).card :=
    Finset.card_le_card_of_forall_subsingleton (ComesFrom log)
      (fun v hv => exists_source h (List.mem_toFinset.1 hv)) fun x _ v hv w hw => hv.2.unique h hw.2
  have howned : (pool.shared.owned user).Nodup := pool.shared.nodup_valuesOf _
  have hspent : (pool.shared.spent user).Nodup := pool.shared.nodup_valuesOf _
  rw [Finset.card_disjSum, List.toFinset_card_of_nodup howned, List.toFinset_card_of_nodup hspent,
    List.toFinset_card_of_nodup (nodup_directIssues user log pool)] at hcard
  have hsplit := pool.shared.length_live_add_length_spent user
  omega

/-- Of two issued tokens one is being exchanged: it is spent already and its successor is not stored yet. -/
theorem live_le_directIssues_midway : ∃ log pool, Operation.Run (.start .empty) log pool ∧
    pool.shared.live (Uuid.ofNat 7) = ["s"] ∧ directIssues (Uuid.ofNat 7) log pool = [0, 1] ∧
      (pool.shared.live (Uuid.ofNat 7)).length ≤ (directIssues (Uuid.ofNat 7) log pool).length := by
  have h := (Run.nil _ : Operation.Run (.start .empty) [] _)
  have h := h.snoc (.begin _ (.issue .development (Uuid.ofNat 7)))
  have h := h.snoc (.begin _ (.issue .development (Uuid.ofNat 7)))
  have h := h.snoc (.answer (i := 0) (r := .now) default rfl rfl)
  have h := h.snoc (.answer (i := 1) (r := .now) default rfl rfl)
  have h := h.snoc (.answer (i := 0) (r := .freshId) (Uuid.ofNat 1) rfl rfl)
  have h := h.snoc (.answer (i := 1) (r := .freshId) (Uuid.ofNat 2) rfl rfl)
  have h := h.snoc (.answer (i := 0) (r := .freshId) (Uuid.ofNat 3) rfl rfl)
  have h := h.snoc (.answer (i := 1) (r := .freshId) (Uuid.ofNat 4) rfl rfl)
  have h := h.snoc (.answer (i := 0) (r := .freshValue 64) "r" rfl rfl)
  have h := h.snoc (.answer (i := 1) (r := .freshValue 64) "s" rfl rfl)
  have h := h.snoc (.answer (i := 0) (r := .add _) (.ok ()) rfl ⟨rfl, rfl⟩)
  have h := h.snoc (.answer (i := 1) (r := .add _) (.ok ()) rfl ⟨rfl, rfl⟩)
  have h := h.snoc (.begin _ (.rotate .development "r"))
  have h := h.snoc (.answer (i := 2) (r := .find "r") (.ok _) rfl ⟨rfl, rfl⟩)
  have h := h.snoc (.answer (i := 2) (r := .now) default rfl rfl)
  have h := h.snoc (.answer (i := 2) (r := .tryRevoke "r") (.ok true) rfl ⟨rfl, rfl⟩)
  exact ⟨_, _, h, rfl, rfl, live_le_directIssues h (Uuid.ofNat 7)⟩

end Bearer
