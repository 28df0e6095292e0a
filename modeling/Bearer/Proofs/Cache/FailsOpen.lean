import Bearer.Proofs.Cache.Lookup
import Bearer.Proofs.Call.Trace
import Bearer.Proofs.Redis.Attempts
import Bearer.Proofs.Service.InMemory
/-! A cache can only save a lookup the way to the directory. Whatever the cache answers, and however it fails, what
the lookup returns is a descriptor that could be read there, or else just what the directory has said. -/

namespace Bearer

namespace Exchange

/-- The keys that were looked up in the cache, with what it said. -/
def reads (xs : List Exchange) : List (String × Except Fault (Option String)) :=
  xs.filterMap fun
    | ⟨.fetch key, r⟩ => some (key, r)
    | _ => none

end Exchange

open Exchange

/-- What a lookup writes behind an answer of the directory. -/
def TypedCache.kept (c : TypedCache Descriptor) (user : Uuid) : Except Fault Descriptor → List (String × String × Ttl)
  | .ok d => (c.codec.encode d).toList.map fun text => (c.userKey user, text, c.ttl)
  | .error _ => []

/-- What a lookup returns, by what it is answered. -/
theorem TypedCache.result_lookup {σ : Type} (answer : (r : Request) → σ → r.Answer × σ) (c : TypedCache Descriptor)
    (user : Uuid) (s : σ) : ((c.lookup user).run.run answer s).1 =
      match c.hit? (answer (.fetch (c.userKey user)) s).1 with
      | some d => .ok d
      | none => (answer (.resolve user) (answer (.fetch (c.userKey user)) s).2).1 := by
  rw [run_lookup, Call.run_ask]
  cases c.hit? (answer (.fetch (c.userKey user)) s).1 with
  | some d => rfl
  | none =>
    simp only [Call.run_ask]
    cases (answer (.resolve user) (answer (.fetch (c.userKey user)) s).2).1 with
    | error f => rfl
    | ok d =>
      simp only
      cases c.codec.encode d <;> rfl

namespace Surroundings

variable {settings : Redis.Settings} {s s' s'' : Surroundings}

/-- What becomes of surroundings with a client on a server: it stays, and once broken down stays so, which takes a wait
that cannot be doubled. -/
structure StaysOn (settings : Redis.Settings) (s s' : Surroundings) : Prop where
  cache : ∃ link, s'.cache = .redis settings link
  broken : s.brokenDown = true → s'.brokenDown = true
  sound : settings.wait.toNat < 2 ^ 63 → s'.brokenDown = s.brokenDown

theorem StaysOn.trans (h : StaysOn settings s s') (h' : StaysOn settings s' s'') : StaysOn settings s s'' :=
  ⟨h'.cache, fun hb => h'.broken (h.broken hb), fun hw => (h'.sound hw).trans (h.sound hw)⟩

/-- Whoever leaves the client alone. -/
theorem StaysOn.same (h : ∃ link, s'.cache = .redis settings link) (hbroken : s'.brokenDown = s.brokenDown) :
    StaysOn settings s s' :=
  ⟨h, fun hb => hbroken.trans hb, fun _ => hbroken⟩

end Surroundings

end Bearer
