import Bearer.Proofs.Call.Action
import Bearer.Proofs.Call.Reach
import Bearer.Proofs.Json.RoundTrip
import Bearer.Proofs.Uuid
/-! A lookup through a cache, request by request: it asks the cache, on a miss the directory, and then offers
what it was told to the cache. The text of a descriptor is read back as the descriptor, and no two users share
a key. -/

namespace Bearer

namespace TypedCache

variable {α : Type}

/-- The value in an answer of the cache, if there is one that can be read. -/
def hit? (c : TypedCache α) : Except Fault (Option String) → Option α
  | .ok (some text) => c.codec.decode text
  | _ => none

theorem hit?_eq_some {c : TypedCache α} {r : Except Fault (Option String)} {v : α} :
    c.hit? r = some v ↔ ∃ text, r = .ok (some text) ∧ c.codec.decode text = some v := by
  rcases r with f | _ | text <;> simp [hit?]

/-- What a strict read comes to, by the answer of the cache. -/
def found (c : TypedCache α) (key : String) : Except Fault (Option String) → Except Fault α
  | .error f => .error f
  | .ok none => .error (.notFound ("cache entry " ++ c.fullKey key))
  | .ok (some text) =>
    match c.codec.decode text with
    | some v => .ok v
    | none => .error (.repository ("Failed to decode cache entry " ++ c.fullKey key ++ ": "))

theorem run_getOrFail (c : TypedCache α) (key : String) :
    (c.getOrFail key).run = .ask (.fetch (c.fullKey key)) fun r => .done (c.found key r) := by
  simp only [getOrFail, Action.run_bind, Action.fetch, ExceptT.run_mk, Call.request, Call.ask_bind, Call.done_bind,
    Call.ask.injEq, heq_eq_eq, true_and]
  funext r
  rcases r with f | _ | text
  · rfl
  · rfl
  · simp only [Action.follow_ok, found]
    cases c.codec.decode text <;> rfl

theorem run_setOrFail (c : TypedCache α) (key : String) (v : α) :
    (c.setOrFail key v).run =
      match c.codec.encode v with
      | none => .done (.error (.repository ("Failed to encode cache entry " ++ c.fullKey key ++ ": ")))
      | some text => .ask (.remember (c.fullKey key) text c.ttl) .done := by
  unfold setOrFail
  cases c.codec.encode v <;> rfl

theorem get_eq (c : TypedCache α) (key : String) :
    c.get key = .ask (.fetch (c.fullKey key)) fun r => .done (c.hit? r) := by
  simp only [get, run_getOrFail, Call.bind_eq, Call.ask_bind, Call.done_bind, Call.ask.injEq, heq_eq_eq, true_and]
  funext r
  rcases r with f | _ | text
  · rfl
  · rfl
  · simp only [found, hit?]
    cases c.codec.decode text <;> rfl

theorem set_eq (c : TypedCache α) (key : String) (v : α) :
    c.set key v =
      match c.codec.encode v with
      | none => .done ()
      | some text => .ask (.remember (c.fullKey key) text c.ttl) fun _ => .done () := by
  rw [set, run_setOrFail]
  cases c.codec.encode v <;> rfl

/-- The key of a user in the cache. -/
def userKey (c : TypedCache Descriptor) (user : Uuid) : String := c.fullKey (Descriptor.cacheKey user)

theorem run_lookup (c : TypedCache Descriptor) (user : Uuid) :
    (c.lookup user).run =
      .ask (.fetch (c.userKey user)) fun r =>
        match c.hit? r with
        | some d => .done (.ok d)
        | none => .ask (.resolve user) fun
          | .error f => .done (.error f)
          | .ok d =>
            match c.codec.encode d with
            | none => .done (.ok d)
            | some text => .ask (.remember (c.userKey user) text c.ttl) fun _ => .done (.ok d) := by
  simp only [lookup, userKey, Action.run_bind, Action.run_lift, get_eq, Call.ask_bind, Call.done_bind, Call.ask.injEq,
    heq_eq_eq, true_and]
  funext r
  simp only [Action.follow_ok]
  cases c.hit? r with
  | some d => rfl
  | none =>
    simp only [Action.run_bind, Action.resolve, ExceptT.run_mk, Call.request, Call.ask_bind, Call.done_bind,
      Call.ask.injEq, heq_eq_eq, true_and]
    funext a
    cases a with
    | error f => rfl
    | ok d =>
      simp only [Action.follow_ok, Action.run_bind, Action.run_lift, set_eq]
      cases c.codec.encode d <;> rfl

theorem fullKey_injective (c : TypedCache α) {k k' : String} (h : c.fullKey k = c.fullKey k') : k = k' := by
  unfold fullKey at h
  split at h
  · exact h
  · rw [String.ofList_inj, List.append_cancel_left_eq, List.cons.injEq] at h
    exact String.toList_inj.1 h.2

theorem userKey_injective (c : TypedCache Descriptor) {u v : Uuid} (h : c.userKey u = c.userKey v) : u = v := by
  have hkey : Descriptor.cacheKey u = Descriptor.cacheKey v := c.fullKey_injective h
  have hjoin (w : Uuid) : Descriptor.cacheKey w = w.text ++ ":" ++ "descriptor" := by
    simp [Descriptor.cacheKey, joinKey, String.append_assoc]
  rw [hjoin, hjoin, String.append_left_inj, String.append_left_inj] at hkey
  exact Uuid.text_injective hkey

end TypedCache

namespace Descriptor

/-- A cache of descriptors in JSON. -/
def cache (ttl : Ttl) (space : List Char) : TypedCache Descriptor := ⟨codec, ttl, space⟩

theorem isWritten_toJson (d : Descriptor) : d.toJson.IsWritten := by
  refine .obj fun m hm => ?_
  simp only [List.mem_cons, List.not_mem_nil, or_false] at hm
  rcases hm with rfl | rfl <;> exact .str _

theorem ofJson?_toJson (d : Descriptor) : ofJson? d.toJson = some d := by
  simp [ofJson?, toJson, Json.record?, Json.Record.required, Uuid.ofJson?, Json.text?, Uuid.parse?_text, List.lookup_cons]

/-- What is cached for a user is read back. -/
theorem decode_encode {d : Descriptor} {text : String} (h : codec.encode d = some text) :
    codec.decode text = some d := by
  have htext : d.toJson.write = text := Option.some.inj h
  show (Json.parse? text).bind ofJson? = some d
  rw [← htext, Json.parse?_write d.isWritten_toJson, Option.bind_some, ofJson?_toJson]

end Descriptor

/-- How far a lookup has come, by what it was answered. -/
inductive LookupPath (c : TypedCache Descriptor) (user : Uuid) :
    List Exchange → Call (Except Fault Descriptor) → Prop
  | begun {rest : Call (Except Fault Descriptor)} :
      rest.Waits (.fetch (c.userKey user)) → LookupPath c user [] rest
  | hit (r : Except Fault (Option String)) (d : Descriptor) : c.hit? r = some d →
      LookupPath c user [⟨.fetch (c.userKey user), r⟩] (.done (.ok d))
  | missed (r : Except Fault (Option String)) {rest : Call (Except Fault Descriptor)} : c.hit? r = none →
      rest.Waits (.resolve user) →
      LookupPath c user [⟨.fetch (c.userKey user), r⟩] rest
  | failed (r : Except Fault (Option String)) (f : Fault) : c.hit? r = none →
      LookupPath c user [⟨.fetch (c.userKey user), r⟩, ⟨.resolve user, .error f⟩]
        (.done (.error f))
  | unwritten (r : Except Fault (Option String)) (d : Descriptor) : c.hit? r = none → c.codec.encode d = none →
      LookupPath c user [⟨.fetch (c.userKey user), r⟩, ⟨.resolve user, .ok d⟩]
        (.done (.ok d))
  | found (r : Except Fault (Option String)) (d : Descriptor) (text : String) {rest : Call (Except Fault Descriptor)} :
      c.hit? r = none → c.codec.encode d = some text →
      rest.Waits (.remember (c.userKey user) text c.ttl) →
      LookupPath c user [⟨.fetch (c.userKey user), r⟩, ⟨.resolve user, .ok d⟩] rest
  | offered (r : Except Fault (Option String)) (d : Descriptor) (text : String) (a : Except Fault Unit) :
      c.hit? r = none → c.codec.encode d = some text →
      LookupPath c user [⟨.fetch (c.userKey user), r⟩, ⟨.resolve user, .ok d⟩,
        ⟨.remember (c.userKey user) text c.ttl, a⟩] (.done (.ok d))

theorem lookupPath_of_reaches {c : TypedCache Descriptor} {user : Uuid} {xs : List Exchange}
    {rest : Call (Except Fault Descriptor)} (h : (c.lookup user).run.Reaches xs rest) : LookupPath c user xs rest := by
  rw [TypedCache.run_lookup] at h
  rcases Call.reaches_ask h with ⟨rfl, rfl⟩ | ⟨r, ys, rfl, h₁⟩
  · exact .begun ⟨_, rfl⟩
  cases hr : c.hit? r with
  | some d =>
    simp only [hr] at h₁
    obtain ⟨rfl, rfl⟩ := Call.reaches_done h₁
    exact .hit r d hr
  | none =>
    simp only [hr] at h₁
    rcases Call.reaches_ask h₁ with ⟨rfl, rfl⟩ | ⟨a, zs, rfl, h₂⟩
    · exact .missed r hr ⟨_, rfl⟩
    cases a with
    | error f =>
      obtain ⟨rfl, rfl⟩ := Call.reaches_done h₂
      exact .failed r f hr
    | ok d =>
      cases hd : c.codec.encode d with
      | none =>
        simp only [hd] at h₂
        obtain ⟨rfl, rfl⟩ := Call.reaches_done h₂
        exact .unwritten r d hr hd
      | some text =>
        simp only [hd] at h₂
        rcases Call.reaches_ask h₂ with ⟨rfl, rfl⟩ | ⟨a, ws, rfl, h₃⟩
        · exact .found r d text hr hd ⟨_, rfl⟩
        · obtain ⟨rfl, rfl⟩ := Call.reaches_done h₃
          exact .offered r d text a hr hd

/-- What a lookup returns it has been told, by the directory or in a hit. -/
theorem LookupPath.of_done {c : TypedCache Descriptor} {user : Uuid} {xs : List Exchange} {d : Descriptor}
    (h : LookupPath c user xs (.done (.ok d))) :
    ⟨.resolve user, .ok d⟩ ∈ xs ∨
      ∃ text, c.codec.decode text = some d ∧ ⟨.fetch (c.userKey user), .ok (some text)⟩ ∈ xs := by
  cases h with
  | begun hw => obtain ⟨_, hw⟩ := hw; cases hw
  | missed r hr hw => obtain ⟨_, hw⟩ := hw; cases hw
  | found r d text hr hd hw => obtain ⟨_, hw⟩ := hw; cases hw
  | hit r d hr =>
    obtain ⟨text, rfl, hd⟩ := TypedCache.hit?_eq_some.1 hr
    exact Or.inr ⟨text, hd, by simp⟩
  | unwritten r d hr hd => exact Or.inl (by simp)
  | offered r d text a hr hd => exact Or.inl (by simp)

/-- A lookup asks for no user but its own. -/
theorem LookupPath.user_of_resolve {c : TypedCache Descriptor} {user user' : Uuid} {xs : List Exchange}
    {rest : Call (Except Fault Descriptor)} (h : LookupPath c user xs rest) {a : Except Fault Descriptor}
    (hx : ⟨.resolve user', a⟩ ∈ xs) : user' = user := by
  cases h <;> simp_all

/-- What a lookup is about to cache, the directory has told it. -/
theorem LookupPath.of_remember {c : TypedCache Descriptor} {user : Uuid} {xs : List Exchange}
    {rest : Call (Except Fault Descriptor)} (h : LookupPath c user xs rest) {key text : String} {ttl : Ttl}
    (hrest : rest.Waits (.remember key text ttl)) :
    key = c.userKey user ∧ ttl = c.ttl ∧ ∃ d, c.codec.encode d = some text ∧ ⟨.resolve user, .ok d⟩ ∈ xs := by
  obtain ⟨next, rfl⟩ := hrest
  cases h with
  | begun hw => obtain ⟨_, hw⟩ := hw; cases hw
  | missed r hr hw => obtain ⟨_, hw⟩ := hw; cases hw
  | found r d text hr hd hw =>
    obtain ⟨_, hw⟩ := hw
    cases hw
    exact ⟨rfl, rfl, d, hd, by simp⟩

end Bearer
