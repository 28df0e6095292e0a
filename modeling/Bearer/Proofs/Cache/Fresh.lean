import Bearer.Proofs.Cache.Shelf
import Bearer.Proofs.Cache.World
/-! What a lookup returns the directory has said, to the lookup itself or not long before to one that cached it.
For that each entry on the shelf is traced to the step of the lookup that set it, and each hit to the entry
that was on the shelf at the time. -/

namespace Bearer

namespace Directory

/-- Every user stands under his own identifier. -/
def Keyed (dir : Directory) : Prop := ∀ user d, dir.users.get? user = some d → d.user = user

theorem Keyed.insert {dir : Directory} (h : dir.Keyed) (d : Descriptor) : (dir.insert d).Keyed := by
  intro user d' hd
  rw [Directory.insert, Table.get?_insert] at hd
  split at hd
  · next huser =>
    cases hd
    exact huser.symm
  · exact h user d' hd

theorem Keyed.remove {dir : Directory} (h : dir.Keyed) (user : Uuid) : (dir.remove user).2.Keyed := by
  intro user' d hd
  rw [Directory.remove, Table.get?_erase] at hd
  split at hd
  · cases hd
  · exact h user' d hd

theorem keyed_ofList (users : List Descriptor) : (ofList users).Keyed := by
  have hfold : ∀ dir : Directory, dir.Keyed → (users.foldl Directory.insert dir).Keyed := by
    induction users with
    | nil => exact fun dir h => h
    | cons d users ih => exact fun dir h => ih _ (h.insert d)
  exact hfold _ fun user d hd => by cases hd

theorem Keyed.user_of_resolve {dir : Directory} (h : dir.Keyed) {user : Uuid} {d : Descriptor}
    (hd : dir.resolve user = .ok d) : d.user = user := by
  unfold resolve at hd
  split at hd
  · next hget =>
    cases hd
    exact h user d hget
  · cases hd

end Directory

namespace Lookups

variable {c : TypedCache Descriptor} {p q : Lookups} {log : List World.Event}

/-- A lookup has set a descriptor of a user at a time, and the directory had told it the descriptor before. -/
def Cached (c : TypedCache Descriptor) (log : List World.Event) (i : Nat) (user : Uuid) (d : Descriptor)
    (time : Instant) : Prop :=
  ∃ before after text told,
    log = before ++ .call time (.answered i ⟨.remember (c.userKey user) text c.ttl, .ok ()⟩) :: after ∧
      c.codec.encode d = some text ∧ .call told (.answered i ⟨.resolve user, .ok d⟩) ∈ before

/-- An entry is what such a lookup has left, ending when it should. -/
def Backed (c : TypedCache Descriptor) (log : List World.Event) (now : Instant) (key : String)
    (e : Shelf.Entry) : Prop :=
  ∃ i user d time, key = c.userKey user ∧ c.codec.encode d = some e.text ∧ Cached c log i user d time ∧
    time ≤ now ∧ e.expiresAt.nanos = time.nanos + c.ttl.nanos

theorem Cached.append {i : Nat} {user : Uuid} {d : Descriptor} {time : Instant} (h : Cached c log i user d time)
    (log' : List World.Event) : Cached c (log ++ log') i user d time := by
  obtain ⟨before, after, text, told, rfl, htext, htold⟩ := h
  exact ⟨before, after ++ log', text, told, by simp, htext, htold⟩

theorem Cached.told {i : Nat} {user : Uuid} {d : Descriptor} {time : Instant} (h : Cached c log i user d time) :
    ∃ told, .call told (.answered i ⟨.resolve user, .ok d⟩) ∈ log := by
  obtain ⟨before, after, text, told, rfl, -, htold⟩ := h
  exact ⟨told, List.mem_append_left _ htold⟩

theorem Backed.later {now now' : Instant} {key : String} {e : Shelf.Entry} (h : Backed c log now key e)
    (log' : List World.Event) (hle : now ≤ now') : Backed c (log ++ log') now' key e := by
  obtain ⟨i, user, d, time, hkey, htext, hcached, htime, hend⟩ := h
  exact ⟨i, user, d, time, hkey, htext, hcached.append log', Int.le_trans htime hle, hend⟩

/-- What holds of a world and the log that has led to it. -/
structure Accounted (c : TypedCache Descriptor) (log : List World.Event) (w : World) : Prop where
  keyed : w.directory.Keyed
  told : ∀ time i user d, .call time (.answered i ⟨.resolve user, .ok d⟩) ∈ log → d.user = user
  backed : ∀ key e, w.shelf.entries.get? key = some e → Backed c log w.now key e
  hits : ∀ now i key text, .call now (.answered i ⟨.fetch key, .ok (some text)⟩) ∈ log →
    ∃ before after e, log = before ++ .call now (.answered i ⟨.fetch key, .ok (some text)⟩) :: after ∧
      Backed c before now key e ∧ now < e.expiresAt ∧ e.text = text

/-- One more event keeps the account, if it says the truth about the directory and the shelf. -/
theorem Accounted.snoc {w w' : World} (h : Accounted c log w) {e : World.Event} (hkeyed : w'.directory.Keyed)
    (htold : ∀ time i user d, e = .call time (.answered i ⟨.resolve user, .ok d⟩) → d.user = user)
    (hbacked : ∀ key entry, w'.shelf.entries.get? key = some entry → Backed c (log ++ [e]) w'.now key entry)
    (hhit : ∀ now i key text, e = .call now (.answered i ⟨.fetch key, .ok (some text)⟩) →
      ∃ entry, Backed c log now key entry ∧ now < entry.expiresAt ∧ entry.text = text) :
    Accounted c (log ++ [e]) w' := by
  refine ⟨hkeyed, ?_, hbacked, ?_⟩
  · intro time i user d hmem
    rcases List.mem_append.1 hmem with hmem | hmem
    · exact h.told time i user d hmem
    · exact htold time i user d (List.mem_singleton.1 hmem).symm
  · intro now i key text hmem
    rcases List.mem_append.1 hmem with hmem | hmem
    · obtain ⟨before, after, entry, hlog, hentry⟩ := h.hits now i key text hmem
      exact ⟨before, after ++ [e], entry, by rw [hlog]; simp, hentry⟩
    · obtain rfl := List.mem_singleton.1 hmem
      obtain ⟨entry, hentry⟩ := hhit now i key text rfl
      exact ⟨log, [], entry, rfl, hentry⟩

/-- An event that no lookup was answered by, and that leaves the shelf as it is. -/
theorem Accounted.aside {w w' : World} (h : Accounted c log w) {e : World.Event} (hkeyed : w'.directory.Keyed)
    (hshelf : w'.shelf = w.shelf) (hnow : w.now ≤ w'.now) (he : ∀ time i x, e ≠ .call time (.answered i x)) :
    Accounted c (log ++ [e]) w' := by
  refine h.snoc hkeyed (fun time i user d h => absurd h (he _ _ _)) (fun key entry hentry => ?_)
    fun now i key text h => absurd h (he _ _ _)
  rw [hshelf] at hentry
  exact (h.backed key entry hentry).later [e] hnow

/-- An answer given to a lookup keeps the account. Only one to `remember` changes the shelf, and the lookup that asks
for it has been told what it sets. -/
theorem Accounted.answer {now : Instant} {users : List Descriptor} (h : Run c (start now users) log p)
    (ha : Accounted c log p.shared) {i : Nat} {user : Uuid} {r : Request}
    {next : r.Answer → Call (Except Fault Descriptor)} {a : r.Answer} {w : World}
    (hi : p.calls[i]? = some ⟨user, .ask r next⟩) (hr : World.Replies p.shared r a w) :
    Accounted c (log ++ [.call p.shared.now (.answered i ⟨r, a⟩)]) w := by
  have hstill (e : World.Event) (key : String) (entry : Shelf.Entry)
      (hentry : p.shared.shelf.entries.get? key = some entry) : Backed c (log ++ [e]) p.shared.now key entry :=
    (ha.backed key entry hentry).later [e] (Int.le_refl _)
  cases hr with
  | fetch key =>
    refine ha.snoc ha.keyed (fun _ _ _ _ h => by cases h) (hstill _) fun now' j k text hevent => ?_
    simp only [World.Event.call.injEq, Pool.Event.answered.injEq, Exchange.mk.injEq, Request.fetch.injEq] at hevent
    obtain ⟨rfl, rfl, rfl, hx⟩ := hevent
    obtain ⟨entry, hentry, hlive, htext⟩ := Shelf.get_eq_some.1 (Except.ok.inj (eq_of_heq hx))
    exact ⟨entry, ha.backed _ entry hentry, hlive, htext⟩
  | resolve user' =>
    refine ha.snoc ha.keyed (fun time j u d hevent => ?_) (hstill _) fun _ _ _ _ h => by cases h
    simp only [World.Event.call.injEq, Pool.Event.answered.injEq, Exchange.mk.injEq, Request.resolve.injEq] at hevent
    obtain ⟨rfl, rfl, rfl, hx⟩ := hevent
    exact ha.keyed.user_of_resolve (eq_of_heq hx)
  | remember key text ttl =>
    refine ha.snoc ha.keyed (fun _ _ _ _ h => by cases h) (fun k entry hentry => ?_) fun _ _ _ _ h => by cases h
    rcases Shelf.entry_of_set hentry with hentry | ⟨rfl, hok, htext, hend⟩
    · exact hstill _ k entry hentry
    · obtain ⟨rfl, rfl, d, hd, htold⟩ := (h.path hi).of_remember ⟨next, rfl⟩
      obtain ⟨told, htold⟩ := mem_history.1 htold
      refine ⟨i, user, d, p.shared.now, rfl, htext ▸ hd, ⟨log, [], text, told, ?_, hd, htold⟩, Int.le_refl _, hend⟩
      rw [hok]

theorem accounted_start (now : Instant) (users : List Descriptor) : Accounted c [] (start now users).shared where
  keyed := Directory.keyed_ofList users
  told _ _ _ _ h := by cases h
  backed _ _ h := by cases h
  hits _ _ _ _ h := by cases h

theorem accounted_of_run {now : Instant} {users : List Descriptor} (h : Run c (start now users) log p) :
    Accounted c log p.shared := by
  induction h with
  | nil => exact accounted_start now users
  | snoc h hs ha =>
    cases hs with
    | pass now hle => exact ha.aside ha.keyed rfl hle fun _ _ _ h => by cases h
    | enter d => exact ha.aside (ha.keyed.insert d) rfl (Int.le_refl _) fun _ _ _ h => by cases h
    | leave user => exact ha.aside (ha.keyed.remove user) rfl (Int.le_refl _) fun _ _ _ h => by cases h
    | call hs =>
      cases hs with
      | begin user => exact ha.aside ha.keyed rfl (Int.le_refl _) fun _ _ _ h => by cases h
      | answer a hi hr => exact ha.answer h hi hr

section

variable {ttl : Ttl} {space : List Char} {now : Instant} {users : List Descriptor}

/-- A hit holds a descriptor that was cached for the user less than the time to live before. -/
theorem cached_of_hit (h : Run (Descriptor.cache ttl space) (start now users) log p) {i : Nat} {user : Uuid}
    {now' : Instant} {text : String} {d : Descriptor} (hd : Descriptor.codec.decode text = some d)
    (hfetch : .call now' (.answered i ⟨.fetch ((Descriptor.cache ttl space).userKey user), .ok (some text)⟩) ∈ log) :
    ∃ before after j time,
      log = before ++
        .call now' (.answered i ⟨.fetch ((Descriptor.cache ttl space).userKey user), .ok (some text)⟩) :: after ∧
      Cached (Descriptor.cache ttl space) before j user d time ∧ time ≤ now' ∧
      now'.nanos < time.nanos + ttl.nanos := by
  obtain ⟨before, after, entry, hlog, hbacked, hlive, rfl⟩ := (accounted_of_run h).hits _ _ _ _ hfetch
  obtain ⟨j, user', d', time, hkey, hd', hcached, htime, hend⟩ := hbacked
  obtain rfl := TypedCache.userKey_injective _ hkey
  cases hd.symm.trans (Descriptor.decode_encode hd')
  refine ⟨before, after, j, time, hlog, hcached, htime, ?_⟩
  rw [Instant.lt_def, hend] at hlive
  exact hlive

/-- Whatever a lookup returns is a descriptor of its user. The directory has given it either to the lookup itself
or to one of the same user that cached it no later than the hit, and less than the time to live before. -/
theorem lookup_fresh (h : Run (Descriptor.cache ttl space) (start now users) log p) {i : Nat} {user : Uuid}
    {d : Descriptor} (hi : p.calls[i]? = some ⟨user, .done (.ok d)⟩) :
    d.user = user ∧
      ((∃ told, .call told (.answered i ⟨.resolve user, .ok d⟩) ∈ log) ∨
        ∃ before after now' text j rest time,
          log = before ++
            .call now' (.answered i ⟨.fetch ((Descriptor.cache ttl space).userKey user), .ok (some text)⟩) :: after ∧
          p.calls[j]? = some ⟨user, rest⟩ ∧ Cached (Descriptor.cache ttl space) before j user d time ∧
          time ≤ now' ∧ now'.nanos < time.nanos + ttl.nanos) := by
  have htold {told : Instant} {j : Nat} (hmem : .call told (.answered j ⟨.resolve user, .ok d⟩) ∈ log) : d.user = user :=
    (accounted_of_run h).told _ _ _ _ hmem
  rcases (h.path hi).of_done with hmem | ⟨text, hd, hmem⟩
  · obtain ⟨told, hmem⟩ := mem_history.1 hmem
    exact ⟨htold hmem, Or.inl ⟨told, hmem⟩⟩
  · obtain ⟨now', hmem⟩ := mem_history.1 hmem
    obtain ⟨before, after, j, time, hlog, hcached, htime, hlive⟩ := cached_of_hit h hd hmem
    have hlater : Cached _ log j user d time := hlog ▸ hcached.append _
    obtain ⟨told, hresolved⟩ := hlater.told
    obtain ⟨rest, hj⟩ := h.call_of_resolved hresolved
    exact ⟨htold hresolved, Or.inr ⟨before, after, now', text, j, rest, time, hlog, hj, hcached, htime, hlive⟩⟩

end

/-- Between two lookups another descriptor takes the place of the first, and the second lookup still returns that
one, in the last instant before it ends. -/
theorem lookup_fresh_after_change : ∃ log p d,
    Run (Descriptor.cache (Ttl.ofSeconds 10) []) (start Instant.epoch [⟨Uuid.ofNat 7, "ada"⟩]) log p ∧
      p.calls[1]? = some ⟨Uuid.ofNat 7, .done (.ok d)⟩ ∧
      p.shared.directory.resolve (Uuid.ofNat 7) = .ok ⟨Uuid.ofNat 7, "eve"⟩ ∧ d = ⟨Uuid.ofNat 7, "ada"⟩ ∧
      d.user = Uuid.ofNat 7 ∧
      ∃ before j time, Cached (Descriptor.cache (Ttl.ofSeconds 10) []) before j (Uuid.ofNat 7) d time := by
  have h := (Run.nil _ : Run (Descriptor.cache (Ttl.ofSeconds 10) [])
    (start Instant.epoch [⟨Uuid.ofNat 7, "ada"⟩]) [] _)
  have h := h.snoc (.call (.begin _ (Uuid.ofNat 7)))
  have h := h.snoc (.call (.answer (i := 0) (r := .fetch _) (.ok none) rfl (.fetch _ _)))
  have h := h.snoc (.call (.answer (i := 0) (r := .resolve _) (.ok _) rfl (.resolve _ _)))
  have h := h.snoc (.call (.answer (i := 0) (r := .remember _ _ _) _ rfl (.remember _ _ _ _)))
  have h := h.snoc (.pass _ ⟨9999999999, by omega, by omega⟩ (by decide))
  have h := h.snoc (.enter _ ⟨Uuid.ofNat 7, "eve"⟩)
  have h := h.snoc (.call (.begin _ (Uuid.ofNat 7)))
  -- the second lookup is taken in its written form, so that the text found is read by the law of the codec
  have hlookup := TypedCache.run_lookup (Descriptor.cache (Ttl.ofSeconds 10) []) (Uuid.ofNat 7)
  have hhit : (Descriptor.cache (Ttl.ofSeconds 10) []).hit?
      (.ok (some (Descriptor.toJson ⟨Uuid.ofNat 7, "ada"⟩).write)) = some ⟨Uuid.ofNat 7, "ada"⟩ :=
    Descriptor.decode_encode rfl
  have hlive : (⟨9999999999, by omega, by omega⟩ : Instant) < ⟨10000000000, by omega, by omega⟩ := by decide
  have h := h.snoc (.call (.answer (i := 1) (r := .fetch _) (.ok (some _))
    (congrArg (fun rest => some (Sigma.mk (Uuid.ofNat 7) rest)) hlookup) (.hit (Shelf.get_set rfl hlive _ _ _))))
  obtain ⟨log, p, h, hi, hresolve, hasked⟩ : ∃ log p,
      Run (Descriptor.cache (Ttl.ofSeconds 10) []) (start Instant.epoch [⟨Uuid.ofNat 7, "ada"⟩]) log p ∧
        p.calls[1]? = some ⟨Uuid.ofNat 7, .done (.ok ⟨Uuid.ofNat 7, "ada"⟩)⟩ ∧
        p.shared.directory.resolve (Uuid.ofNat 7) = .ok ⟨Uuid.ofNat 7, "eve"⟩ ∧
        ¬∃ told, .call told (.answered 1 ⟨.resolve (Uuid.ofNat 7), .ok ⟨Uuid.ofNat 7, "ada"⟩⟩) ∈ log := by
    refine ⟨_, _, h, ?_, rfl, by simp⟩
    dsimp only [start, Pool.start, List.nil_append, List.cons_append, List.set, List.getElem?_cons_succ,
      List.getElem?_cons_zero]
    rw [hhit]
  have hfresh := lookup_fresh h hi
  obtain ⟨before, _, _, _, j, _, time, _, _, hcached, _⟩ := hfresh.2.resolve_left hasked
  exact ⟨log, p, _, h, hi, hresolve, rfl, hfresh.1, before, j, time, hcached⟩

end Lookups

end Bearer
