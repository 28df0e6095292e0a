import Bearer.Proofs.Pool.Ledger
/-! Calls that run side by side over one store come to what they would have come to one after another. Each
answer either leaves a call waiting, puts it off to the end, sends it on midway, or gives it its place. -/

namespace Bearer

open Pool

variable {now : Instant} {s₀ s s' : RefreshStore} {cs : List ((j : Job) × Call j.Outcome)}

section Steps

variable {x : Ledger} {d : Draws} {p : Policy} {v : String} {t : Token}

theorem kept_of_add (h : x.Holds now s₀ s cs) {store : RefreshStore} (token : Token)
    (hkept : ∀ m ∈ x.midway, store.get? m.value = x.store.get? m.value) :
    ∀ m ∈ x.midway, (store.add token).2.get? m.value = x.store.get? m.value := fun m hm => by
  have hstored := (h.midway m hm).stored
  rw [hstored]
  exact RefreshStore.get?_add_of_some ((hkept m hm).trans hstored)

theorem kept_of_tryRevoke (hv : v ∉ x.values) :
    ∀ m ∈ x.midway, (x.store.tryRevoke v).2.get? m.value = x.store.get? m.value := fun m hm => by
  have hne : m.value ≠ v := fun h => hv (h ▸ List.mem_map_of_mem hm)
  rw [RefreshStore.get?_tryRevoke, if_neg hne]

theorem stored_of_mem_values (h : x.Holds now s₀ s cs) : ∀ v ∈ x.values, v ∈ x.store.keys := fun v hv => by
  obtain ⟨m, hm, rfl⟩ := List.mem_map.1 hv
  exact RefreshStore.mem_keys.2 (by simp [(h.midway m hm).stored])

theorem accounted_issue (h : x.Holds now s₀ s cs) (hahead : s.Ahead x.store x.values) {user : Uuid}
    {r : Request} {next : r.Answer → Call (Except Fault TokenPair)} {a : r.Answer}
    (hw : Waiting now s ⟨.issue p user, d⟩ (.ask r next)) (hr : s.Replies r a s') :
    Accounted now s₀ s' (⟨⟨.issue p user, d⟩, next a⟩ :: cs) := by
  obtain ⟨hcall, access, refresh, hadd⟩ := hw
  rw [hadd] at hcall
  cases hadd
  obtain ⟨rfl, rfl⟩ := hr
  obtain ⟨ha, hahead'⟩ := hahead.add (stored_of_mem_values h) refresh
  refine ⟨_, (h.mono (RefreshStore.extends_add s refresh)).serve ?_ (kept_of_add h refresh fun _ _ => rfl),
    hahead'⟩
  rw [Job.Ends, ← hcall, ha]
  exact .ask _ ⟨rfl, rfl⟩ (.done _ _)

/-- An exchange that has found its token: the order gives it the same token, or the same one before it was
revoked. -/
theorem accounted_rotate_found (h : x.Holds now s₀ s cs) (hahead : s.Ahead x.store x.values)
    (ht : s.get? v = some t) :
    Accounted now s₀ s (⟨⟨.rotate p v, d⟩, p.rotateFound now d v t⟩ :: cs) := by
  cases he : t.isExpired now with
  | true =>
    obtain ⟨t', ht', he'⟩ := hahead.expired ht he
    rw [Policy.rotateFound_of_expired he]
    exact ⟨_, h.serve (Job.ends_rotate_expired ht' he') fun _ _ => rfl, hahead⟩
  | false =>
    cases hrev : t.revoked with
    | true =>
      rw [Policy.rotateFound_of_revoked he hrev]
      exact ⟨_, h.postpone ⟨rfl, t, ht, he, hrev⟩, hahead⟩
    | false =>
      rw [Policy.rotateFound_of_usable (Token.isUsable_eq_true.2 ⟨he, hrev⟩)]
      exact ⟨_, h.wait (Or.inr ⟨t, ht, he, rfl⟩), hahead⟩

/-- An exchange that has won its value is midway, unless it fails before it has a token to add. -/
theorem accounted_rotate_won (h : x.Holds now s₀ s cs) (hahead : s.Ahead x.store x.values)
    (ht : s.get? v = some t) (hu : t.isUsable now = true) :
    Accounted now s₀ (s.tryRevoke v).2 (⟨⟨.rotate p v, d⟩, (p.issue t.user).run.given now d⟩ :: cs) := by
  obtain ⟨hv, ht'⟩ := hahead.get?_of_fresh ht (Token.isUsable_eq_true.1 hu).2
  have h' := h.mono (RefreshStore.extends_tryRevoke s v)
  have hahead' := hahead.run_ahead v
  rcases Policy.given_issue now d p t.user with ⟨f, hf⟩ | hadds
  · have hends : Job.Ends now ⟨.rotate p v, d⟩ x.store (.error f) (x.store.tryRevoke v).2 :=
      Job.ends_rotate_usable ht' hu (by rw [hf]; exact .done _ _)
    rw [hf]
    exact ⟨_, h'.serve hends (kept_of_tryRevoke hv), hahead'.catch_up hv⟩
  · have hm : Midway.At now ⟨p, v, d, t⟩ x.store := ⟨ht', hu, hadds⟩
    exact ⟨_, h'.win hm hv, hahead'⟩

theorem accounted_rotate (h : x.Holds now s₀ s cs) (hahead : s.Ahead x.store x.values) {r : Request}
    {next : r.Answer → Call (Except Fault TokenPair)} {a : r.Answer}
    (hw : Waiting now s ⟨.rotate p v, d⟩ (.ask r next)) (hr : s.Replies r a s') :
    Accounted now s₀ s' (⟨⟨.rotate p v, d⟩, next a⟩ :: cs) := by
  rcases hw with hw | ⟨t, ht, he, hw⟩
  · rw [Job.call_rotate] at hw
    cases hw
    obtain ⟨rfl, rfl⟩ := hr
    cases ht : s'.get? v with
    | none =>
      rw [RefreshStore.get_eq_error.2 ⟨ht, rfl⟩]
      exact ⟨_, h.serve (Job.ends_rotate_missed (hahead.get?_eq_none.1 ht)) fun _ _ => rfl, hahead⟩
    | some t =>
      rw [RefreshStore.get_eq_ok.2 ht]
      exact accounted_rotate_found h hahead ht
  · cases hw
    obtain ⟨rfl, rfl⟩ := hr
    cases hrev : t.revoked with
    | true =>
      rw [RefreshStore.tryRevoke_of_revoked ht hrev]
      exact ⟨_, h.postpone ⟨rfl, t, ht, he, hrev⟩, hahead⟩
    | false =>
      rw [RefreshStore.tryRevoke_fst.2 ⟨t, ht, hrev⟩]
      exact accounted_rotate_won h hahead ht (Token.isUsable_eq_true.2 ⟨he, hrev⟩)

theorem accounted_withdraw_found (h : x.Holds now s₀ s cs) (hahead : s.Ahead x.store x.values)
    (ht : s.get? v = some t) : Accounted now s₀ s (⟨⟨.withdraw v, d⟩, withdrawFound now v t⟩ :: cs) := by
  cases he : t.isExpired now with
  | true =>
    obtain ⟨t', ht', he'⟩ := hahead.expired ht he
    have hends : Job.Ends now ⟨.withdraw v, d⟩ x.store (.ok ()) x.store :=
      Job.ends_withdraw_unusable ht' (Token.isUsable_eq_false.2 (Or.inl he'))
    rw [withdrawFound_of_unusable (Token.isUsable_eq_false.2 (Or.inl he))]
    exact ⟨_, h.serve hends fun _ _ => rfl, hahead⟩
  | false =>
    cases hrev : t.revoked with
    | true =>
      rw [withdrawFound_of_unusable (Token.isUsable_eq_false.2 (Or.inr hrev))]
      exact ⟨_, h.postpone ⟨rfl, t, ht, he, hrev⟩, hahead⟩
    | false =>
      rw [withdrawFound_of_usable (Token.isUsable_eq_true.2 ⟨he, hrev⟩)]
      exact ⟨_, h.wait (Or.inr ⟨t, ht, he, rfl⟩), hahead⟩

theorem accounted_withdraw (h : x.Holds now s₀ s cs) (hahead : s.Ahead x.store x.values) {r : Request}
    {next : r.Answer → Call (Except Fault Unit)} {a : r.Answer}
    (hw : Waiting now s ⟨.withdraw v, d⟩ (.ask r next)) (hr : s.Replies r a s') :
    Accounted now s₀ s' (⟨⟨.withdraw v, d⟩, next a⟩ :: cs) := by
  rcases hw with hw | ⟨t, ht, he, hw⟩
  · rw [Job.call_withdraw] at hw
    cases hw
    obtain ⟨rfl, rfl⟩ := hr
    cases ht : s'.get? v with
    | none =>
      rw [RefreshStore.get_eq_error.2 ⟨ht, rfl⟩]
      exact ⟨_, h.serve (Job.ends_withdraw_missed (hahead.get?_eq_none.1 ht)) fun _ _ => rfl, hahead⟩
    | some t =>
      rw [RefreshStore.get_eq_ok.2 ht]
      exact accounted_withdraw_found h hahead ht
  · cases hw
    obtain ⟨rfl, rfl⟩ := hr
    cases hrev : t.revoked with
    | true =>
      rw [RefreshStore.tryRevoke_of_revoked ht hrev]
      exact ⟨_, h.postpone ⟨rfl, t, ht, he, hrev⟩, hahead⟩
    | false =>
      obtain ⟨hv, ht'⟩ := hahead.get?_of_fresh ht hrev
      have hends : Job.Ends now ⟨.withdraw v, d⟩ x.store (.ok ()) (x.store.tryRevoke v).2 :=
        Job.ends_withdraw_usable ht' (Token.isUsable_eq_true.2 ⟨he, hrev⟩)
      exact ⟨_, (h.mono (RefreshStore.extends_tryRevoke s v)).serve hends (kept_of_tryRevoke hv),
        (hahead.run_ahead v).catch_up hv⟩

/-- An exchange that was midway takes its place when it adds its token: there it wins its value, and the two
stores answer its request alike. -/
theorem accounted_midway (h : x.Holds now s₀ s cs) {m : Midway} (hm : m.At now x.store)
    (hv : m.value ∉ x.values) (hahead : s.Ahead x.store (m.value :: x.values)) {j : Job} {r : Request} {next : r.Answer → Call j.Outcome}
    {a : r.Answer} (hc : m.call now = ⟨j, .ask r next⟩) (hr : s.Replies r a s') :
    Accounted now s₀ s' (⟨j, next a⟩ :: cs) := by
  obtain ⟨access, refresh, hadd⟩ := hm.adds
  rw [Midway.call, hadd] at hc
  cases hc
  obtain ⟨rfl, rfl⟩ := hr
  have hkeys : ∀ v ∈ x.values, v ∈ (x.store.tryRevoke m.value).2.keys := by
    rw [RefreshStore.keys_tryRevoke]
    exact stored_of_mem_values h
  obtain ⟨ha, hahead'⟩ := (hahead.catch_up hv).add hkeys refresh
  refine ⟨_, (h.mono (RefreshStore.extends_add s refresh)).serve (Job.ends_rotate_usable hm.stored hm.usable ?_)
    (kept_of_add h refresh (kept_of_tryRevoke hv)), hahead'⟩
  rw [hadd, ha]
  exact .ask _ ⟨rfl, rfl⟩ (.done _ _)

end Steps

theorem Accounted.perm (h : Accounted now s₀ s cs) {cs' : List ((j : Job) × Call j.Outcome)}
    (hcs : cs.Perm cs') : Accounted now s₀ s cs' := by
  obtain ⟨x, hx, hahead⟩ := h
  exact ⟨x, { hx with calls := hcs.symm.trans hx.calls }, hahead⟩

theorem Accounted.begin (h : Accounted now s₀ s cs) (j : Job) : Accounted now s₀ s (⟨j, j.call now⟩ :: cs) := by
  obtain ⟨x, hx, hahead⟩ := h
  obtain ⟨⟨p, user⟩ | ⟨p, v⟩ | v, d⟩ := j
  · rcases Policy.given_issue now d p user with ⟨f, hf⟩ | hadds
    · have hends : Job.Ends now ⟨.issue p user, d⟩ x.store (.error f) x.store := by
        rw [Job.Ends, Job.call_issue, hf]
        exact .done _ _
      rw [Job.call_issue, hf]
      exact ⟨_, hx.serve hends fun _ _ => rfl, hahead⟩
    · exact ⟨_, hx.wait ⟨rfl, hadds⟩, hahead⟩
  · exact ⟨_, hx.wait (Or.inl rfl), hahead⟩
  · exact ⟨_, hx.wait (Or.inl rfl), hahead⟩

theorem Accounted.answer (h : Accounted now s₀ s cs) {j : Job} {r : Request} {next : r.Answer → Call j.Outcome}
    {a : r.Answer} {cs' : List ((j : Job) × Call j.Outcome)} (hcs : cs.Perm (⟨j, .ask r next⟩ :: cs'))
    (hr : s.Replies r a s') : Accounted now s₀ s' (⟨j, next a⟩ :: cs') := by
  obtain ⟨x, hx, hahead⟩ := h
  have hmem : ⟨j, .ask r next⟩ ∈ x.calls now := (hcs.symm.trans hx.calls).mem_iff.1 (List.mem_cons_self ..)
  simp only [Ledger.calls, List.mem_append, List.mem_map] at hmem
  -- the early and the late calls ask for nothing any more
  rcases hmem with ((⟨y, -, hy⟩ | ⟨y, -, hy⟩) | hwaiting) | ⟨m, hm, hc⟩
  · cases hy
  · cases hy
  · have hw := hx.waiting _ hwaiting
    obtain ⟨ws, hx'⟩ := hx.take_waiting hwaiting hcs
    obtain ⟨⟨p, user⟩ | ⟨p, v⟩ | v, d⟩ := j
    · exact accounted_issue hx' hahead hw hr
    · exact accounted_rotate hx' hahead hw hr
    · exact accounted_withdraw hx' hahead hw hr
  · have hat := hx.midway m hm
    obtain ⟨ms, hx', hv, hahead'⟩ := hx.take_midway hm (hc ▸ hcs) hahead
    exact accounted_midway hx' hat hv hahead' hc hr

variable {log : List (Event Job)} {pool : Pool RefreshStore Job.Outcome}

theorem accounted_of_run (h : Job.Run now (.start s₀) log pool) : Accounted now s₀ pool.shared pool.calls := by
  refine h.preserves (I := fun pool => Accounted now s₀ pool.shared pool.calls) ?_ fun _ hs ih => ?_
  · refine ⟨⟨[], [], [], [], s₀⟩, ⟨.refl _, .nil, ?_, ?_, ?_, .nil⟩, .refl s₀⟩ <;> simp
  · cases hs with
    | begin j => exact (ih.begin j).perm (List.perm_append_singleton ..).symm
    | answer a hi hr =>
      obtain ⟨rest, hcs, hset⟩ := perm_set hi
      exact (ih.answer hcs hr).perm (hset _).symm

/-- Calls that came too late for their value can come last, in any order. -/
theorem serially_append_late {xs ys : List ((j : Job) × j.Outcome)}
    (h : Serially RefreshStore.Replies (Job.call now) s₀ xs s) (hlate : ∀ y ∈ ys, Late now s y.1 y.2) :
    Serially RefreshStore.Replies (Job.call now) s₀ (xs ++ ys) s := by
  induction ys generalizing xs with
  | nil => simpa using h
  | cons y ys ih =>
    obtain ⟨hy, hys⟩ := List.forall_mem_cons.1 hlate
    simpa using ih (h.snoc hy.ends) hys

/-- When all calls have come to their ends, all have their place in the order. -/
theorem serially_of_done (h : Accounted now s₀ s cs) (hdone : ∀ y ∈ cs, ∃ a, y.2 = .done a) :
    ∃ xs, Serially RefreshStore.Replies (Job.call now) s₀ xs s ∧ cs.Perm (xs.map finished) := by
  obtain ⟨⟨early, late, waiting, midway, t⟩, hx, hahead⟩ := h
  -- whoever is waiting or midway still asks for something
  obtain rfl : waiting = [] := List.eq_nil_iff_forall_not_mem.2 fun y hy => by
    obtain ⟨r, next, hw⟩ := (hx.waiting y hy).waits
    obtain ⟨a, ha⟩ := hdone y (hx.calls.mem_iff.2 (by simp [Ledger.calls, hy]))
    rw [hw] at ha
    cases ha
  obtain rfl : midway = [] := List.eq_nil_iff_forall_not_mem.2 fun m hm => by
    obtain ⟨access, refresh, hadd⟩ := (hx.midway m hm).adds
    have hmem : m.call now ∈ cs := hx.calls.mem_iff.2 (List.mem_append_right _ (List.mem_map_of_mem hm))
    obtain ⟨a, ha⟩ := hdone (m.call now) hmem
    cases hadd.symm.trans ha
  obtain rfl : s = t := hahead.eq
  exact ⟨early ++ late, serially_append_late hx.early hx.late, by simpa [Ledger.calls] using hx.calls⟩

/-- With the clock at a standstill, whatever the store holds at first and whatever is drawn, calls that have run
side by side to their ends have come to what they come to in a run in which one follows another, and have left
the same store behind. -/
theorem operations_serializable (h : Job.Run now (.start s₀) log pool)
    (hdone : ∀ x ∈ pool.calls, ∃ a, x.2 = .done a) : ∃ log' pool',
    Job.Run now (.start s₀) log' pool' ∧ Serial pool.calls.length log' ∧
      pool'.calls.Perm pool.calls ∧ pool'.shared = pool.shared := by
  obtain ⟨xs, hxs, hperm⟩ := serially_of_done (accounted_of_run h) hdone
  obtain ⟨log', hserial, hrun⟩ := hxs.run
  have hlength : xs.length = pool.calls.length := by simpa using hperm.symm.length_eq
  exact ⟨log', _, hrun, hlength ▸ hserial, hperm.symm, rfl⟩

/-- Two exchanges find the same token, and the one that loses it has failed before the other adds its own. -/
theorem operations_serializable_raced : ∃ (s₀ : RefreshStore) (log log' : _) (pool pool' : _),
    Job.Run default (.start s₀) log pool ∧ pool.shared.keys = ["r", "w"] ∧
      pool.calls[1]? = some ⟨⟨.rotate .development "r", ⟨fun _ => Uuid.ofNat 3, fun _ => "x"⟩⟩,
        .done (.error (.token .revoked))⟩ ∧
      Job.Run default (.start s₀) log' pool' ∧ Serial 2 log' ∧ pool'.calls.Perm pool.calls ∧
      pool'.shared = pool.shared := by
  have h := (Run.nil _ : Job.Run default (.start (RefreshStore.empty.add
    ⟨Uuid.ofNat 1, Uuid.ofNat 7, "r", .refresh, default, ⟨1, by omega, by omega⟩, false⟩).2) [] _)
  have h := h.snoc (.begin _ ⟨.rotate .development "r", ⟨fun _ => Uuid.ofNat 2, fun _ => "w"⟩⟩)
  have h := h.snoc (.begin _ ⟨.rotate .development "r", ⟨fun _ => Uuid.ofNat 3, fun _ => "x"⟩⟩)
  have h := h.snoc (.answer (i := 0) (r := .find "r") (.ok _) rfl ⟨rfl, rfl⟩)
  have h := h.snoc (.answer (i := 1) (r := .find "r") (.ok _) rfl ⟨rfl, rfl⟩)
  have h := h.snoc (.answer (i := 0) (r := .tryRevoke "r") (.ok true) rfl ⟨rfl, rfl⟩)
  have h := h.snoc (.answer (i := 1) (r := .tryRevoke "r") (.ok false) rfl ⟨rfl, rfl⟩)
  have h := h.snoc (.answer (i := 0) (r := .add _) (.ok ()) rfl ⟨rfl, rfl⟩)
  obtain ⟨log', pool', hserial⟩ := operations_serializable h
    (List.forall_mem_cons.2 ⟨⟨_, rfl⟩, List.forall_mem_cons.2 ⟨⟨_, rfl⟩, by simp⟩⟩)
  exact ⟨_, _, log', _, pool', h, rfl, rfl, hserial⟩

end Bearer
